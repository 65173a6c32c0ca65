import PolicyFields.Text.CaseTable
import PolicyFields.Text.Category

/-!
# Letter case

* `lower` — the text in small letters by the default rules: one capital may become two characters
  (dotted capital I), and a capital sigma at the end of a word becomes the final small sigma.
* `simpleFold` — one representative for the characters that differ in case only; two characters
  match without regard to case exactly if their representatives are equal.
* `caseVariants` — the characters with one representative.
-/

namespace PolicyFields.Text

/-- The small form of a character, whatever stands around it. -/
def lowerChar (c : Char) : List Char :=
  if c.toNat < 0x80 then [c.toLower]
  else if c == 'İ' then ['i', '\u0307']
  else [Char.ofNat (Shift.applyFirst lowerShifts c.toNat)]

/-- Whether the next character that is not passed over has case. -/
def casedAhead : List Char → Bool
  | [] => false
  | c :: r => if isCaseIgnorable c then casedAhead r else isCased c

/-- `cs` in small letters; `casedBefore` says that a cased character stands before it. -/
def lowerFrom : Bool → List Char → List Char
  | _, [] => []
  | casedBefore, c :: r =>
    (if c == 'Σ' then [if casedBefore && !casedAhead r then 'ς' else 'σ'] else lowerChar c) ++
      lowerFrom (if isCaseIgnorable c then casedBefore else isCased c) r

/-- `cs` in small letters. -/
def lowerChars (cs : List Char) : List Char := lowerFrom false cs

/-- `s` in small letters (`to_lowercase`). -/
def lower (s : String) : String := String.ofList (lowerChars s.toList)

/-- What is no code point stands for the character 0. -/
theorem toNat_ofNat (n : Nat) : (Char.ofNat n).toNat = if n.isValidChar then n else 0 := by
  by_cases hn : n.isValidChar
  · rw [Char.ofNat, dif_pos hn, if_pos hn]
    rfl
  · rw [Char.ofNat, dif_neg hn, if_neg hn]
    rfl

/-- The representative of the characters that differ from `c` in case only. -/
def simpleFold (c : Char) : Char :=
  if c.toNat < 0x80 then c.toLower else Char.ofNat (Shift.applyFirst foldShifts c.toNat)

/-- The characters whose shift leads to the code point `n`. -/
def Shift.sources (s : Shift) (n : Nat) : Option Nat :=
  let m := (Int.ofNat n - s.delta).toNat
  if s.covers m && Int.ofNat m + s.delta == Int.ofNat n then some m else none

/-- The characters that differ from `c` in case only, `c` included. -/
def caseVariants (c : Char) : List Char :=
  let f := simpleFold c
  let ascii := if f.toNat < 0x80 && f.isLower then [f.toUpper] else []
  f :: ascii ++ (foldShifts.filterMap fun s => s.sources f.toNat).map Char.ofNat

end PolicyFields.Text
