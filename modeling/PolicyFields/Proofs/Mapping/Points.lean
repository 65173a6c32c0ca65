import PolicyFields.Proofs.Amount.Points
import PolicyFields.Proofs.Mapping.Integers

/-!
# Points in whole numbers

With the Turkish convention a text is read as an amount, in which points group thousands, or else as
a float, in which one separates decimals.

* `Amount.IsWhole` — a text is an amount without decimals.
* `apply_withoutPoints` — **which texts may lose their points**: these amounts. What is none of them
  is read as a float.
* `apply_withoutPoints_minus` — among the others are the negative numbers.
-/

namespace PolicyFields.Amount

open Number (Decimal)

/-- Without blanks around it, currency and points, `s` is a numeral of `n`, which has 96 bits. -/
def IsWhole (s : String) (n : Nat) : Prop :=
  IsNumeral (bareDigits s) ∧ Nat.ofDigitChars 10 (bareDigits s) 0 = n ∧ n < Decimal.unitBound

variable {s : String} {n : Nat}

theorem IsWhole.parse?_eq (h : IsWhole s n) (hcomma : ',' ∉ s.toList) :
    parse? .turkish s = some ⟨false, n, 0⟩ := by
  obtain ⟨hdigits, rfl, hbound⟩ := h
  rw [parse?_turkish hcomma, if_pos (isDigits_iff.2 hdigits), Decimal.ofDigits?_nil, if_pos hbound]

theorem parse?_of_not_isWhole (h : ∀ n, ¬ IsWhole s n) (hcomma : ',' ∉ s.toList) :
    parse? .turkish s = none := by
  rw [parse?_turkish hcomma]
  split
  · rename_i hdigits
    rw [Decimal.ofDigits?_nil, if_neg]
    exact fun hbound => h _ ⟨isDigits_iff.1 hdigits, rfl, hbound⟩
  · rfl

end PolicyFields.Amount

namespace PolicyFields.Mapping

open Amount (IsWhole withoutPoints)
open Json (Value)

variable {cfg : NumericRules}

/-- **Which texts may lose their points.** An amount without decimals is the same whole number with
them and without them, or it is too large either way. Any other text is read as a float as it
stands, with its points. -/
theorem apply_withoutPoints (hturkish : cfg.turkish = some true) (hkind : cfg.kind = .integer)
    (hrules : cfg.rules = []) {s : String} (hcomma : ',' ∉ s.toList) :
    (∀ n, IsWhole s n →
      cfg.apply (.string s) = cfg.apply (.string (withoutPoints s)) ∧
      cfg.apply (.string s) = if fitsInt64 n then .ok (.int n)
        else .error (.overflow (Number.Decimal.mk false n 0).text)) ∧
    ((∀ n, ¬ IsWhole s n) → cfg.apply (.string s) = cfg.floatOutcome s) := by
  have hstyle : Amount.Style.ofFlag cfg.turkish = .turkish := by
    rw [hturkish, Amount.Style.ofFlag]
  refine ⟨fun n hwhole => ?_, fun hnone => ?_⟩
  · have hparse := hwhole.parse?_eq hcomma
    have hpoints : Amount.parse? .turkish (withoutPoints s) = some ⟨false, n, 0⟩ :=
      (Amount.parse?_withoutPoints hcomma hwhole.1).trans hparse
    rw [NumericRules.apply_amount hrules (hstyle ▸ hparse),
      NumericRules.apply_amount hrules (hstyle ▸ hpoints), hkind, decimalValue,
      Number.Decimal.toInt_whole]
    exact ⟨rfl, rfl⟩
  · exact NumericRules.apply_float hrules (hstyle ▸ Amount.parse?_of_not_isWhole hnone hcomma)

/-- Points and currency in an amount, and a negative number. -/
theorem apply_withoutPoints_two :
    let cfg : NumericRules := ⟨[], .integer, some true, none⟩
    cfg.apply (.string "1.234.567 TL") = .ok (.int 1234567) ∧
      cfg.apply (.string (withoutPoints "1.234.567 TL")) = .ok (.int 1234567) ∧
      cfg.apply (.string "-1.500") = cfg.floatOutcome "-1.500" := by
  intro cfg
  have hamount := @apply_withoutPoints cfg rfl rfl rfl "1.234.567 TL" (by decide)
  have hminus := @apply_withoutPoints cfg rfl rfl rfl "-1.500" (by decide)
  have hwhole : IsWhole "1.234.567 TL" 1234567 := by
    rw [IsWhole, ← Amount.isDigits_iff]
    decide
  obtain ⟨hsame, hvalue⟩ := hamount.1 _ hwhole
  have hnone : ∀ n, ¬ IsWhole "-1.500" n := by
    rintro n ⟨hdigits, -⟩
    exact absurd (Amount.isDigits_iff.2 hdigits) (by decide)
  exact ⟨hvalue, hsame.symm.trans hvalue, hminus.2 hnone⟩

/-- The point of a negative number separates decimals, so that it loses three of its digits. -/
theorem apply_withoutPoints_minus :
    let cfg : NumericRules := ⟨[], .integer, some true, none⟩
    ',' ∉ "-1.500".toList ∧ withoutPoints "-1.500" = "-1500" ∧
      cfg.apply (.string "-1.500") = .ok (.int (-1)) ∧
      cfg.apply (.string "-1500") = .ok (.int (-1500)) ∧
      cfg.apply (.string "-1.500") ≠ cfg.apply (.string (withoutPoints "-1.500")) := by
  intro cfg
  have hpoints : withoutPoints "-1.500" = "-1500" := by decide
  have hminus : cfg.apply (.string "-1.500") = .ok (.int (-1)) := by
    rw [@NumericRules.apply_float cfg rfl "-1.500" (by decide)]
    rfl
  have hnone : cfg.apply (.string "-1500") = .ok (.int (-1500)) :=
    NumericRules.apply_minus (n := 1500) rfl rfl (by decide) (by decide)
  refine ⟨by decide, hpoints, hminus, hnone, ?_⟩
  rw [hpoints, hminus, hnone]
  simp [Value.int]

end PolicyFields.Mapping
