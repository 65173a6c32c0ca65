import PolicyFields.Text.Blank
import PolicyFields.Text.Case

/-!
# Occurrence without regard to case and blanks

* `hasInfix` — whether a text occurs in another.
* `foldChars` — the form in which texts that differ in case only are equal.
* `occursLoosely` — occurrence without regard to case, either with every run of blanks as one space
  or without any blanks.
-/

namespace PolicyFields.Text

/-- Whether `needle` stands somewhere in a text. -/
def hasInfix (needle : List Char) : List Char → Bool
  | [] => needle.isEmpty
  | c :: r => needle.isPrefixOf (c :: r) || hasInfix needle r

theorem hasInfix_iff {needle cs : List Char} : hasInfix needle cs = true ↔ needle <:+: cs := by
  induction cs with
  | nil => cases needle <;> simp [hasInfix]
  | cons c r ih =>
    rw [hasInfix, Bool.or_eq_true, ih, List.isPrefixOf_iff_prefix]
    exact List.infix_cons_iff.symm

/-- Every character replaced by the representative of those that differ from it in case only. -/
def foldChars (cs : List Char) : List Char := cs.map simpleFold

/-- Whether `needle` occurs in a text, case not regarded. -/
def occursFolded (needle cs : List Char) : Bool := hasInfix (foldChars needle) (foldChars cs)

/-- Whether `needle` occurs in a text, case not regarded, when blanks are collapsed on both sides
or when they are removed on both sides. -/
def occursLoosely (needle s : String) : Bool :=
  occursFolded (collapseChars needle.toList) (collapseChars s.toList) ||
    occursFolded (stripChars needle.toList) (stripChars s.toList)

end PolicyFields.Text
