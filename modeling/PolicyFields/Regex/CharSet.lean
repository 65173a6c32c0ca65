import PolicyFields.Text.Blank
import PolicyFields.Text.Case
import PolicyFields.Text.Category

/-!
# Sets of characters

* `Property` — sets that the Unicode standard defines.
* `CharSet` — ranges of code points, properties, and what can be built from them.
* `CharSet.contains` — the meaning of a set.
-/

namespace PolicyFields.Regex

open Text (Category)

/-- A set of characters that has a name. -/
inductive Property where
  | any
  | ascii
  | word
  | space
  | category (ks : List Category)
  | script (code : String)
  | alphabetic
  | lowercase
  | uppercase
  | cased
  | caseIgnorable
  | graphemeExtend
  | hexDigit
deriving DecidableEq, Repr

/-- Hexadecimal digits, in their usual and their wide forms. -/
def hexDigitRanges : List (Nat × Nat) :=
  [(0x30, 0x39), (0x41, 0x46), (0x61, 0x66), (0xFF10, 0xFF19), (0xFF21, 0xFF26), (0xFF41, 0xFF46)]

/-- Whether a character has a property. -/
def Property.holds (p : Property) (c : Char) : Bool :=
  match p with
  | any => true
  | ascii => c.toNat < 0x80
  | word => Text.isWord c
  | space => Text.isBlank c
  | category ks => ks.contains (Text.category c)
  | script code => Text.script? c == some code
  | alphabetic => Text.isAlphabetic c
  | lowercase => Text.isLowercase c
  | uppercase => Text.isUppercase c
  | cased => Text.isCased c
  | caseIgnorable => Text.isCaseIgnorable c
  | graphemeExtend => Text.isGraphemeExtend c
  | hexDigit => Text.inRanges hexDigitRanges c.toNat

/-- A set of characters. -/
inductive CharSet where
  | ranges (rs : List (Nat × Nat))
  | property (p : Property)
  | union (a b : CharSet)
  | inter (a b : CharSet)
  | diff (a b : CharSet)
  | symmDiff (a b : CharSet)
  | compl (a : CharSet)
  /-- With every character also those that differ from it in case only. -/
  | folded (a : CharSet)
  /-- The same for the letters of ASCII alone. -/
  | foldedAscii (a : CharSet)
deriving DecidableEq, Repr

namespace CharSet

/-- No character. -/
def none : CharSet := ranges []

/-- One character. -/
def single (c : Char) : CharSet := ranges [(c.toNat, c.toNat)]

/-- The characters from `a` to `b`. -/
def range (a b : Char) : CharSet := ranges [(a.toNat, b.toNat)]

/-- The letter of ASCII that differs from `c` in case only, else `c`. -/
def swapAscii (c : Char) : Char := if c.isLower then c.toUpper else c.toLower

/-- Whether a character belongs to a set. -/
def contains : CharSet → Char → Bool
  | ranges rs, c => Text.inRanges rs c.toNat
  | property p, c => p.holds c
  | union a b, c => contains a c || contains b c
  | inter a b, c => contains a c && contains b c
  | diff a b, c => contains a c && !contains b c
  | symmDiff a b, c => contains a c != contains b c
  | compl a, c => !contains a c
  | folded a, c => contains a c || (Text.caseVariants c).any fun d => contains a d
  | foldedAscii a, c => contains a c || contains a (swapAscii c)

/-- The characters that differ from `c` in case only. -/
def variants (c : Char) : CharSet :=
  ranges ((Text.caseVariants c).map fun d => (d.toNat, d.toNat))

/-- The letter `c` of ASCII in both cases. -/
def variantsAscii (c : Char) : CharSet :=
  ranges [(c.toNat, c.toNat), ((swapAscii c).toNat, (swapAscii c).toNat)]

/-- The characters of ASCII in a set of bytes, if it has no other byte. -/
def asciiOnly? (s : CharSet) : Option CharSet :=
  if (List.range 0x80).any fun n => s.contains (Char.ofNat (n + 0x80)) then Option.none
  else some (ranges (((List.range 0x80).filter fun n => s.contains (Char.ofNat n)).map
    fun n => (n, n)))

end CharSet

end PolicyFields.Regex
