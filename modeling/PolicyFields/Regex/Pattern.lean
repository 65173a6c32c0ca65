import PolicyFields.Regex.CharSet

/-!
# Patterns

* `Look` — conditions on the place between two characters, with `Look.holds`.
* `Pattern` — a pattern, no switches in it.
* `Pattern.times` — a repetition, simplified where it can match nothing but the empty text.
-/

namespace PolicyFields.Regex

/-- Conditions on words. -/
inductive WordLook where
  | boundary
  | noBoundary
  | start
  | stop
  | startHalf
  | stopHalf
deriving DecidableEq, Repr

/-- Conditions on a place. -/
inductive Look where
  | textStart
  | textEnd
  /-- Behind a line feed. -/
  | lineStart
  /-- Before a line feed. -/
  | lineEnd
  /-- Behind a line feed or a carriage return, but not between the two. -/
  | anyLineStart
  /-- Before a carriage return or a line feed, but not between the two. -/
  | anyLineEnd
  | word (k : WordLook) (ascii : Bool)
deriving DecidableEq, Repr

namespace WordLook

/-- Whether the condition holds where words stand or do not stand on the two sides. -/
def holds (k : WordLook) (before behind : Bool) : Bool :=
  match k with
  | boundary => before != behind
  | noBoundary => before == behind
  | start => !before && behind
  | stop => before && !behind
  | startHalf => !before
  | stopHalf => !behind

end WordLook

/-- Characters of words, of ASCII alone if so asked. -/
def isWordIn (ascii : Bool) (c : Char) : Bool :=
  if ascii then c.isAlphanum || c == '_' else Text.isWord c

/-- Whether the condition holds between two characters; none means an end of the text. -/
def Look.holds (l : Look) (before behind : Option Char) : Bool :=
  match l with
  | textStart => before.isNone
  | textEnd => behind.isNone
  | lineStart => before.isNone || before == some '\n'
  | lineEnd => behind.isNone || behind == some '\n'
  | anyLineStart =>
    before.isNone || before == some '\n' || (before == some '\r' && behind != some '\n')
  | anyLineEnd =>
    behind.isNone || behind == some '\r' || (behind == some '\n' && before != some '\r')
  | word k ascii => k.holds (before.any (isWordIn ascii)) (behind.any (isWordIn ascii))

/-- A pattern. -/
inductive Pattern where
  | empty
  | set (s : CharSet)
  | look (l : Look)
  | group (index : Nat) (p : Pattern)
  | concat (p q : Pattern)
  | alternate (p q : Pattern)
  | repetition (least : Nat) (most : Option Nat) (greedy : Bool) (p : Pattern)

namespace Pattern

/-- Whether the pattern matches at most the empty text. -/
def isEmptyOnly : Pattern → Bool
  | empty => true
  | set _ => false
  | look _ => true
  | group _ p => isEmptyOnly p
  | concat p q => isEmptyOnly p && isEmptyOnly q
  | alternate p q => isEmptyOnly p && isEmptyOnly q
  | repetition _ _ _ p => isEmptyOnly p

/-- Whether the pattern needs a character. -/
def isConsuming : Pattern → Bool
  | empty => false
  | set _ => true
  | look _ => false
  | group _ p => isConsuming p
  | concat p q => isConsuming p || isConsuming q
  | alternate p q => isConsuming p && isConsuming q
  | repetition least _ _ p => least != 0 && isConsuming p

/-- The pattern repeated. No more than one repetition counts of what matches only the empty text,
and none at all is the empty pattern. -/
def times (least : Nat) (most : Option Nat) (greedy : Bool) (p : Pattern) : Pattern :=
  let least := if p.isEmptyOnly then min least 1 else least
  let most := if p.isEmptyOnly then some ((most.map (min · 1)).getD 1) else most
  if most = some 0 then empty
  else if least = 1 ∧ most = some 1 then p
  else repetition least most greedy p

/-- The greatest index of a group, zero without groups. -/
def lastGroup : Pattern → Nat
  | empty | set _ | look _ => 0
  | group index p => max index (lastGroup p)
  | concat p q => max (lastGroup p) (lastGroup q)
  | alternate p q => max (lastGroup p) (lastGroup q)
  | repetition _ _ _ p => lastGroup p

end Pattern

end PolicyFields.Regex
