import Mathlib.Data.Rat.Floor
import PolicyFields.Proofs.Number.Range

/-!
# The whole part of a decimal

* `toInt_written` — the whole part of a decimal is what its digits before the point write.
* `toInt_eq_floor` — without a sign it is the value rounded down.
* `mul?_whole`, `mul?_whole_eq_none` — **whole decimals are multiplied exactly**, as long as the
  product has 96 bits.
-/

namespace PolicyFields.Number.Decimal

variable {a b d : Decimal} {whole fraction : List Char}

/-! ## Cutting off the places -/

theorem natAbs_toInt (d : Decimal) : d.toInt.natAbs = d.units / 10 ^ d.scale := by
  unfold toInt
  split
  · exact Int.natAbs_neg _
  · rfl

@[simp] theorem toInt_ofInt (i : Int) : (ofInt i).toInt = i := by
  have hunits : (ofInt i).truncate.units = i.natAbs := Nat.div_one _
  rw [toInt, hunits, ofInt]
  dsimp only
  split
  · rename_i hneg
    have hlt : i < 0 := of_decide_eq_true hneg
    rw [Int.ofNat_eq_natCast]
    omega
  · rename_i hneg
    have hle : ¬ i < 0 := of_decide_eq_false (Bool.not_eq_true _ ▸ hneg)
    rw [Int.ofNat_eq_natCast]
    omega

@[simp] theorem toInt_truncate (d : Decimal) : d.truncate.toInt = d.toInt := by
  have htwice : d.truncate.truncate = d.truncate := by
    rw [truncate, truncate]
    exact congrArg (Decimal.mk d.negative · 0) (Nat.div_one _)
  rw [toInt, toInt, htwice]
  rfl

/-- The digits behind the point do not count, whatever they are. -/
theorem toInt_written (hfraction : AllDigits fraction) :
    (written whole fraction).toInt = Nat.ofDigitChars 10 whole 0 := by
  have hunits : (written whole fraction).truncate.units = Nat.ofDigitChars 10 whole 0 := by
    change Nat.ofDigitChars 10 (whole ++ fraction) 0 / 10 ^ fraction.length = _
    rw [Nat.ofDigitChars_append, Nat.ofDigitChars_eq_ofDigitChars_zero,
      Nat.mul_add_div (Nat.pow_pos (by decide)), Nat.div_eq_of_lt (ofDigitChars_lt hfraction),
      Nat.add_zero]
  rw [toInt, hunits]
  rfl

/-- Without a sign the whole part is the value rounded down. -/
theorem toInt_eq_floor (h : d.negative = false) : d.toInt = ⌊d.value⌋ := by
  have hvalue : d.value = ((d.units : Int) : ℚ) / ((10 ^ d.scale : Nat) : ℚ) := by
    rw [value, h]
    push_cast
    simp
  rw [hvalue, Rat.floor_intCast_div_natCast, toInt, h]
  rfl

/-- What is read from digits has no sign. -/
theorem negative_of_ofDigits? (h : ofDigits? whole fraction = some d) : d.negative = false := by
  obtain ⟨m, -, hfraction⟩ := Option.bind_eq_some_iff.1 h
  obtain ⟨u, -, rfl⟩ := Option.map_eq_some_iff.1 hfraction
  rfl

/-! ## Products -/

theorem toInt_of_scale_eq_zero (h : d.scale = 0) :
    d.toInt = if d.negative then -(d.units : Int) else d.units := by
  have hunits : d.truncate.units = d.units := by
    rw [truncate, h]
    exact Nat.div_one _
  rw [toInt, hunits]
  rfl

/-- A whole number that fits is not rounded. -/
theorem fit?_whole {n : Nat} (h : n < unitBound) : fit? n 0 = some (n, 0) := by
  have hdivided : n / Nat.pow 10 0 = n := Nat.div_one n
  have hdrop : fittingDrop n 60 (0 - maxScale) = 0 := if_pos (hdivided.symm ▸ h)
  have hrounded : roundHalfEven n (Nat.pow 10 0) = n := roundHalfEven_one n
  rw [fit?, hdrop, dropDigits?, if_neg (Nat.lt_irrefl 0), hrounded]
  exact if_pos h

/-- **Whole decimals are multiplied exactly**: a product of 96 bits loses nothing. -/
theorem mul?_whole (ha : a.scale = 0) (hb : b.scale = 0) (h : a.units * b.units < unitBound) :
    ∃ p, a.mul? b = some p ∧ p.toInt = a.toInt * b.toInt := by
  rw [toInt_of_scale_eq_zero ha, toInt_of_scale_eq_zero hb]
  unfold mul?
  split
  · rename_i hzero
    refine ⟨zero, rfl, ?_⟩
    rcases hzero with hzero | hzero <;> simp [hzero, zero, toInt, truncate]
  · rename_i hzero
    rw [not_or] at hzero
    rw [ha, hb, fit?_whole h, Option.map_some]
    refine ⟨_, rfl, ?_⟩
    rw [toInt_of_scale_eq_zero rfl]
    cases a.negative <;> cases b.negative <;> simp [hzero.1, hzero.2]

/-- A larger product is out of range. -/
theorem mul?_whole_eq_none (ha : a.Fits) (hb : b.Fits) (hscale : a.scale = 0)
    (hscale' : b.scale = 0) (h : unitBound ≤ a.units * b.units) : a.mul? b = none := by
  rw [mul?_eq_none_iff ha hb, hscale, hscale']
  exact (roundHalfEven_one (a.units * b.units)).symm ▸ h

end PolicyFields.Number.Decimal
