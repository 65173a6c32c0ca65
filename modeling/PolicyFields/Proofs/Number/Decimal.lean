import Mathlib.Data.Rat.Defs
import Mathlib.Tactic.FieldSimp
import Mathlib.Tactic.Ring
import PolicyFields.Number.Decimal

/-!
# Decimals from digits

* `Decimal.value` — the rational number that a decimal stands for.
* `Decimal.written` — the decimal with given digits before and behind the point, and
  `Decimal.value_written`, its value.
* `Decimal.ofDigits?_eq_written` — **up to 28 digits are read exactly**, whatever their leading
  zeros and wherever the point stands.
-/

namespace PolicyFields.Number

/-- Every character is one of the ten digits. -/
def AllDigits (cs : List Char) : Prop := ∀ c ∈ cs, c.isDigit = true

theorem allDigits_toDigits (n : Nat) : AllDigits (Nat.toDigits 10 n) :=
  fun _ hc => Nat.isDigit_of_mem_toDigits (by decide) (by decide) hc

theorem digit_lt_ten {c : Char} (h : c.isDigit = true) : c.toNat - '0'.toNat < 10 := by
  have hhigh := (Char.isDigit_iff_toNat.1 h).2
  change c.toNat ≤ 57 at hhigh
  change c.toNat - 48 < 10
  omega

/-- As many digits as there are write no greater number. -/
theorem ofDigitChars_lt {cs : List Char} (h : AllDigits cs) :
    Nat.ofDigitChars 10 cs 0 < 10 ^ cs.length := by
  induction cs with
  | nil => decide
  | cons c cs ih =>
    have hrest := ih fun d hd => h d (List.mem_cons_of_mem _ hd)
    have hvalue := digit_lt_ten (h c List.mem_cons_self)
    rw [Nat.ofDigitChars_cons, Nat.ofDigitChars_eq_ofDigitChars_zero, List.length_cons]
    calc 10 ^ cs.length * (10 * 0 + (c.toNat - '0'.toNat)) + Nat.ofDigitChars 10 cs 0
        < 10 ^ cs.length * 9 + 10 ^ cs.length := by
          refine Nat.add_lt_add_of_le_of_lt (Nat.mul_le_mul_left _ ?_) hrest
          omega
      _ = 10 ^ (cs.length + 1) := by rw [pow_succ]; ring

theorem le_ofDigitChars (cs : List Char) (m : Nat) : m ≤ Nat.ofDigitChars 10 cs m := by
  rw [Nat.ofDigitChars_eq_ofDigitChars_zero]
  exact Nat.le_add_right_of_le (Nat.le_mul_of_pos_left m (Nat.pow_pos (by decide)))

namespace Decimal

/-- The number that a decimal stands for. -/
def value (d : Decimal) : ℚ := (if d.negative then -1 else 1) * d.units / 10 ^ d.scale

/-- The decimal with the digits `whole` before the point and `fraction` behind it. -/
def written (whole fraction : List Char) : Decimal :=
  ⟨false, Nat.ofDigitChars 10 (whole ++ fraction) 0, fraction.length⟩

theorem value_written (whole fraction : List Char) : (written whole fraction).value =
    Nat.ofDigitChars 10 whole 0 + Nat.ofDigitChars 10 fraction 0 / 10 ^ fraction.length := by
  simp only [value, written, Nat.ofDigitChars_append, Bool.false_eq_true, if_false, one_mul]
  rw [Nat.ofDigitChars_eq_ofDigitChars_zero]
  push_cast
  field_simp

/-! ## Reading -/

theorem readWhole?_eq_some {cs : List Char} {m : Nat}
    (h : Nat.ofDigitChars 10 cs m < unitBound) :
    readWhole? m cs = some (Nat.ofDigitChars 10 cs m) := by
  induction cs generalizing m with
  | nil => rfl
  | cons c cs ih =>
    rw [Nat.ofDigitChars_cons] at h ⊢
    rw [readWhole?]
    exact (if_pos ((le_ofDigitChars _ _).trans_lt h)).trans (ih h)

theorem readWhole?_eq_none {cs : List Char} {m : Nat} (hm : m < unitBound)
    (h : unitBound ≤ Nat.ofDigitChars 10 cs m) : readWhole? m cs = none := by
  induction cs generalizing m with
  | nil => exact absurd h (Nat.not_le.2 hm)
  | cons c cs ih =>
    rw [Nat.ofDigitChars_cons] at h
    rw [readWhole?]
    by_cases hfits : 10 * m + digitValue c < unitBound
    · exact (if_pos hfits).trans (ih hfits h)
    · exact if_neg hfits

theorem toInt_whole (n : Nat) : (⟨false, n, 0⟩ : Decimal).toInt = n := by
  simp [toInt, truncate]

/-- Digits without a fraction are read exactly, as long as their number fits. -/
theorem ofDigits?_nil (whole : List Char) : ofDigits? whole [] =
    if Nat.ofDigitChars 10 whole 0 < unitBound
      then some ⟨false, Nat.ofDigitChars 10 whole 0, 0⟩ else none := by
  rw [ofDigits?]
  by_cases hfits : Nat.ofDigitChars 10 whole 0 < unitBound
  · rw [readWhole?_eq_some hfits, if_pos hfits]
    rfl
  · rw [readWhole?_eq_none (by decide) (Nat.not_lt.1 hfits), if_neg hfits]
    rfl

theorem readFraction?_eq_some {cs : List Char} {m scale : Nat}
    (hplaces : scale + cs.length ≤ maxScale) (h : Nat.ofDigitChars 10 cs m < unitBound) :
    readFraction? m scale cs = some (Nat.ofDigitChars 10 cs m, scale + cs.length) := by
  induction cs generalizing m scale with
  | nil => rfl
  | cons c cs ih =>
    rw [List.length_cons] at hplaces ⊢
    rw [Nat.ofDigitChars_cons] at h ⊢
    rw [readFraction?]
    have hfits : scale < maxScale ∧ 10 * m + digitValue c < unitBound :=
      ⟨by omega, (le_ofDigitChars _ _).trans_lt h⟩
    refine (if_pos hfits).trans ?_
    rw [← Nat.add_assoc, Nat.add_right_comm]
    exact ih (by omega) h

/-- **Up to 28 digits are read exactly.** -/
theorem ofDigits?_eq_written {whole fraction : List Char} (hwhole : AllDigits whole)
    (hfraction : AllDigits fraction) (hlength : whole.length + fraction.length ≤ 28) :
    ofDigits? whole fraction = some (written whole fraction) := by
  have hdigits : AllDigits (whole ++ fraction) := fun c hc =>
    (List.mem_append.1 hc).elim (hwhole c) (hfraction c)
  -- The bound on the units has room for every number of 28 digits.
  have hunits : Nat.ofDigitChars 10 (whole ++ fraction) 0 < unitBound := by
    calc Nat.ofDigitChars 10 (whole ++ fraction) 0
        < 10 ^ (whole ++ fraction).length := ofDigitChars_lt hdigits
      _ ≤ 10 ^ 28 := Nat.pow_le_pow_right (by decide) (by rwa [List.length_append])
      _ ≤ unitBound := by decide
  rw [Nat.ofDigitChars_append] at hunits
  rw [ofDigits?, readWhole?_eq_some ((le_ofDigitChars _ _).trans_lt hunits), Option.bind_some,
    readFraction?_eq_some (by rw [Nat.zero_add]; exact (Nat.le_add_left _ _).trans hlength) hunits,
    written, Nat.ofDigitChars_append, Nat.zero_add]
  rfl

end Decimal

end PolicyFields.Number
