import PolicyFields.Regex.Meaning

/-!
# The size of a pattern

`Pattern.bytes` estimates how much room a pattern takes when every repetition is written out,
without writing it out; `Pattern.exceeds` compares it with a limit. Patterns of plain characters
alone fit always.

The numbers are an estimate and not the room that a compiled pattern really takes: a pattern that
comes near the limit, such as a class of all letters under a limit of some ten thousands, may be
accepted here and refused there, or the other way round. No theorem rests on them: what is proved of
patterns is proved of whatever `compile` makes of them.
-/

namespace PolicyFields.Regex

/-- Room for a set of characters: ranges of ASCII are single steps, all others several. -/
def rangesBytes (rs : List (Nat × Nat)) : Nat :=
  rs.foldl (fun n r => n + if r.2 < 0x80 then 16 else 32) 16

namespace Property

/-- Room for a named set, by order of magnitude; the great ones are those of letters and marks. -/
def bytes : Property → Nat
  | any | ascii | space | hexDigit => 256
  | script _ => 512
  | category ks => if ks.length = 1 then 1024 else 24576
  | word | alphabetic | lowercase | uppercase | cased | caseIgnorable | graphemeExtend => 24576

end Property

/-- Room for a set. -/
def CharSet.bytes : CharSet → Nat
  | ranges rs => rangesBytes rs
  | property p => p.bytes
  | union a b => bytes a + bytes b
  | inter a b => bytes a + bytes b
  | diff a b => bytes a + bytes b
  | symmDiff a b => bytes a + bytes b
  | compl a => bytes a
  | folded a => 2 * bytes a
  | foldedAscii a => 2 * bytes a

namespace Pattern

/-- Whether the pattern is a text or a choice of texts, letters perhaps in either case. -/
def isPlain : Pattern → Bool
  | empty => true
  | set (.ranges rs) => rs.length ≤ 10 && rs.all fun r => r.1 == r.2
  | set _ => false
  | concat p q => isPlain p && isPlain q
  | alternate p q => isPlain p && isPlain q
  | look _ | group _ _ | repetition _ _ _ _ => false

/-- Room for a pattern, every repetition written out; an estimate. -/
def bytes : Pattern → Nat
  | empty => 0
  | set s => s.bytes
  | look _ => 16
  | group _ p => bytes p + 32
  | concat p q => bytes p + bytes q
  | alternate p q => bytes p + bytes q + 16
  | repetition least most _ p => max 1 (most.getD least) * (bytes p + 16)

/-- Whether a pattern is taken to need more room than there is. Only far from the limit does it say
what the real budget would. -/
def exceeds (p : Pattern) (limit : Nat) : Bool := !p.isPlain && limit < p.bytes

end Pattern

end PolicyFields.Regex
