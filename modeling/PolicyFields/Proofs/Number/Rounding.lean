import Mathlib.Algebra.GroupWithZero.Nat
import Mathlib.Data.Nat.Log
import PolicyFields.Number.Binary

/-!
# Rounding to floats

A float that is neither zero nor infinite has a mantissa of at most 53 bits and an exponent of two,
and every operation rounds its exact result to such a pair.

* `quotient` — a mantissa that stands for a quotient, the remainder being remembered in two bits,
  and `quotient_shiftRight`: shifting it loses nothing of the remainder.
* `roundWithAccuracy_eq` — **a quotient is rounded as a whole**, a half going to the even neighbour.
* `Below` — floats below a power of two, with `Below.add`, `Below.mul` and `Below.div`: **how far an
  operation can lead**.
-/

namespace PolicyFields.Number

open Float.Model (Format UnpackedFloat totalExponent)
open Float.Model.UnpackedFloat

variable {m m' n d q k : Nat} {e e' t bound bound' : Int} {u v : UnpackedFloat}

/-! ## Halves go to the even neighbour -/

theorem div_le_roundHalfEven (n d : Nat) : n / d ≤ roundHalfEven n d := by
  unfold roundHalfEven
  dsimp only
  split
  · exact Nat.le_refl _
  · split
    · omega
    · split <;> omega

theorem roundHalfEven_le (n d : Nat) : roundHalfEven n d ≤ n / d + 1 := by
  unfold roundHalfEven
  dsimp only
  split
  · omega
  · split
    · omega
    · split <;> omega

theorem roundHalfEven_of_dvd (h : n % d = 0) : roundHalfEven n d = n / d := by
  rw [roundHalfEven, h]
  by_cases hd : 0 < d
  · exact if_pos hd
  · simp only [Nat.mul_zero, hd, if_false]
    split <;> simp_all

/-- Rounding does not lead beyond a whole number. -/
theorem roundHalfEven_le_of_le (hd : 0 < d) (h : n ≤ q * d) : roundHalfEven n d ≤ q := by
  rcases Nat.lt_or_eq_of_le ((Nat.div_le_iff_le_mul_add_pred hd).2 (by
    rw [Nat.mul_comm]; omega : n ≤ d * q + (d - 1))) with hlt | heq
  · exact (roundHalfEven_le n d).trans hlt
  · have hmod := Nat.div_add_mod n d
    rw [heq, Nat.mul_comm] at hmod
    rw [roundHalfEven_of_dvd (by omega), heq]

theorem roundHalfEven_mul_right (n d : Nat) {c : Nat} (hc : 0 < c) :
    roundHalfEven (n * c) (d * c) = roundHalfEven n d := by
  have hless : 2 * (n % d * c) < d * c ↔ 2 * (n % d) < d := by
    rw [← Nat.mul_assoc]
    exact Nat.mul_lt_mul_right hc
  have hmore : d * c < 2 * (n % d * c) ↔ d < 2 * (n % d) := by
    rw [← Nat.mul_assoc]
    exact Nat.mul_lt_mul_right hc
  unfold roundHalfEven
  simp only [Nat.mul_div_mul_right n d hc, Nat.mul_mod_mul_right, hless, hmore]

/-! ## Leading bits -/

theorem log2_mul_two_pow (hm : m ≠ 0) (k : Nat) : (m * 2 ^ k).log2 = m.log2 + k := by
  refine (Nat.log2_eq_iff (Nat.mul_ne_zero hm (Nat.two_pow_pos k).ne')).2 ⟨?_, ?_⟩
  · rw [Nat.pow_add]
    exact Nat.mul_le_mul_right _ (Nat.log2_self_le hm)
  · rw [Nat.add_right_comm, Nat.pow_add]
    exact Nat.mul_lt_mul_of_pos_right Nat.lt_log2_self (Nat.two_pow_pos k)

theorem log2_mul_le (hm : m ≠ 0) (hm' : m' ≠ 0) : (m * m').log2 ≤ m.log2 + m'.log2 + 1 := by
  refine Nat.lt_succ_iff.1 ((Nat.log2_lt (Nat.mul_ne_zero hm hm')).2 ?_)
  calc m * m' < 2 ^ (m.log2 + 1) * 2 ^ (m'.log2 + 1) :=
        Nat.mul_lt_mul'' Nat.lt_log2_self Nat.lt_log2_self
    _ = 2 ^ (m.log2 + m'.log2 + 1 + 1) := by rw [← Nat.pow_add]; congr 1; omega

theorem log2_le_log2_mul (hm : m ≠ 0) (hm' : m' ≠ 0) : m.log2 ≤ (m * m').log2 := by
  refine (Nat.le_log2 (Nat.mul_ne_zero hm hm')).2 ((Nat.log2_self_le hm).trans ?_)
  exact Nat.le_mul_of_pos_right m (Nat.pos_of_ne_zero hm')

theorem log2_div_le (hd : d ≠ 0) (hq : n / d ≠ 0) : (n / d).log2 + d.log2 ≤ n.log2 := by
  have hn : n ≠ 0 := fun h => hq (by rw [h, Nat.zero_div])
  refine (Nat.le_log2 hn).2 ?_
  rw [Nat.pow_add]
  exact (Nat.mul_le_mul (Nat.log2_self_le hq) (Nat.log2_self_le hd)).trans (Nat.div_mul_le_self n d)

theorem le_log2_div (hd : 0 < d) (hn : n ≠ 0) (h : k + d.log2 + 1 ≤ n.log2) : k ≤ (n / d).log2 := by
  have hquotient : 2 ^ k ≤ n / d := by
    rw [Nat.le_div_iff_mul_le hd]
    calc 2 ^ k * d ≤ 2 ^ k * 2 ^ (d.log2 + 1) := Nat.mul_le_mul_left _ Nat.lt_log2_self.le
      _ = 2 ^ (k + d.log2 + 1) := by rw [← Nat.pow_add, Nat.add_assoc]
      _ ≤ 2 ^ n.log2 := Nat.pow_le_pow_right (by decide) h
      _ ≤ n := Nat.log2_self_le hn
  exact (Nat.le_log2 ((Nat.two_pow_pos k).trans_le hquotient).ne').2 hquotient

/-- All bits but the leading 53 are shifted out. -/
theorem div_two_pow_lt (hk : m.log2 ≤ k + 52) : m / 2 ^ k < 2 ^ 53 := by
  rw [Nat.div_lt_iff_lt_mul (Nat.two_pow_pos k), ← Nat.pow_add]
  calc m < 2 ^ (m.log2 + 1) := Nat.lt_log2_self
    _ ≤ 2 ^ (53 + k) := Nat.pow_le_pow_right (by decide) (by omega)

/-- None of the leading 53 bits is shifted out. -/
theorem le_div_two_pow (hm : m ≠ 0) (hk : k + 52 ≤ m.log2) : 2 ^ 52 ≤ m / 2 ^ k := by
  rw [Nat.le_div_iff_mul_le (Nat.two_pow_pos k), ← Nat.pow_add]
  exact (Nat.pow_le_pow_right (by decide) (by omega)).trans (Nat.log2_self_le hm)

/-! ## Shifting a quotient -/

/-- The mantissa `n / d`, with what its remainder is to a half in two bits. -/
def quotient (n d : Nat) : ExtendedMantissa :=
  .ofMantissaAndAccuracy (n / d) (accuracyOfFraction (n % d) d)

theorem mantissa_quotient (n d : Nat) : (quotient n d).mantissa = n / d := by
  unfold quotient
  rcases accuracyOfFraction (n % d) d with _ | _ | _ | _ <;> rfl

theorem quotient_of_dvd (h : n % d = 0) : quotient n d = ⟨n / d, false, false⟩ := by
  rw [quotient, accuracyOfFraction, if_pos h]
  rfl

theorem quotient_below_half (h : n % d ≠ 0) (hlt : 2 * (n % d) < d) :
    quotient n d = ⟨n / d, false, true⟩ := by
  rw [quotient, accuracyOfFraction, if_neg h, Nat.compare_eq_lt.2 hlt]
  rfl

theorem quotient_half (h : n % d ≠ 0) (heq : 2 * (n % d) = d) :
    quotient n d = ⟨n / d, true, false⟩ := by
  rw [quotient, accuracyOfFraction, if_neg h, Nat.compare_eq_eq.2 heq]
  rfl

theorem quotient_above_half (h : n % d ≠ 0) (hlt : d < 2 * (n % d)) :
    quotient n d = ⟨n / d, true, true⟩ := by
  rw [quotient, accuracyOfFraction, if_neg h, Nat.compare_eq_gt.2 hlt]
  rfl

/-- The two bits tell whether there is a remainder. -/
theorem remainder_quotient (n d : Nat) :
    ((quotient n d).roundBit || (quotient n d).stickyBit) = decide (n % d ≠ 0) := by
  by_cases hr : n % d = 0
  · simp [quotient_of_dvd hr, hr]
  · rcases Nat.lt_trichotomy (2 * (n % d)) d with h | h | h
    · simp [quotient_below_half hr h, hr]
    · simp [quotient_half hr h, hr]
    · simp [quotient_above_half hr h, hr]

theorem quotient_shiftRightOne (n : Nat) (hd : 0 < d) :
    (quotient n d).shiftRightOne = quotient n (d * 2) := by
  have hdiv : n / (d * 2) = n / d / 2 := (Nat.div_div_eq_div_mul n d 2).symm
  have hmod : n % (d * 2) = n % d + d * (n / d % 2) := Nat.mod_mul
  have hlt : n % d < d := Nat.mod_lt n hd
  rw [ExtendedMantissa.shiftRightOne, remainder_quotient, mantissa_quotient]
  -- The bit that is shifted out says on which side of a half the new remainder is.
  rcases Nat.mod_two_eq_zero_or_one (n / d) with hbit | hbit
  · rw [hbit, Nat.mul_zero, Nat.add_zero] at hmod
    by_cases hr : n % d = 0
    · simp [quotient_of_dvd (hmod.trans hr), hbit, hr, hdiv]
    · rw [quotient_below_half (by omega) (by omega)]
      simp [hbit, hr, hdiv]
  · rw [hbit, Nat.mul_one] at hmod
    by_cases hr : n % d = 0
    · rw [quotient_half (by omega) (by omega)]
      simp [hbit, hr, hdiv]
    · rw [quotient_above_half (by omega) (by omega)]
      simp [hbit, hr, hdiv]

/-- **Shifting loses nothing of the remainder.** -/
theorem quotient_shiftRight (n : Nat) (hd : 0 < d) (k : Nat) :
    quotient n d >>> k = quotient n (d * 2 ^ k) := by
  change Nat.repeat ExtendedMantissa.shiftRightOne k (quotient n d) = _
  induction k with
  | zero =>
    rw [Nat.pow_zero, Nat.mul_one]
    rfl
  | succ k ih =>
    rw [Nat.repeat, ih, quotient_shiftRightOne n (Nat.mul_pos hd (Nat.two_pow_pos k)),
      Nat.mul_assoc, ← Nat.pow_succ]

theorem roundedMantissa_quotient (n d : Nat) :
    (quotient n d).roundedMantissa = roundHalfEven n d := by
  by_cases hr : n % d = 0
  · rw [quotient_of_dvd hr, roundHalfEven_of_dvd hr]
    rfl
  · rw [roundHalfEven]
    rcases Nat.lt_trichotomy (2 * (n % d)) d with h | h | h
    · rw [quotient_below_half hr h, if_pos h]
      rfl
    · rw [quotient_half hr h, if_neg (by omega), if_neg (by omega)]
      change n / d + n / d % 2 = _
      split <;> omega
    · rw [quotient_above_half hr h, if_neg (by omega), if_pos h]
      rfl

/-! ## Rounding a quotient -/

/-- The exponent that leaves 53 bits of a mantissa, or the least one there is. -/
theorem targetExponent_eq (m : Nat) (e : Int) :
    Format.binary64.targetExponent (totalExponent m e) = max (m.log2 + e - 52) (-1074) := by
  have hbits : Format.binary64.mantissaBits = 53 := rfl
  have hleast : Format.binary64.minExponent = -1074 := rfl
  rw [Format.targetExponent, totalExponent, hbits, hleast]
  omega

/-- The float `± q · 2 ^ t`. Where rounding has made `q` one bit too long, the bit goes into the
exponent. -/
def carried (s : Sign) (q : Nat) (t : Int) : UnpackedFloat :=
  if h : q = 0 then .zero s
  else if q < 2 ^ 53 then .finite s q t (Nat.pos_of_ne_zero h)
  else .finite s (2 ^ 52) (t + 1) (by decide)

theorem shiftToTargetExponent_carried (s : Sign) (hq : q ≤ 2 ^ 53) (ht : -1074 ≤ t) :
    (if h : (shiftToTargetExponent Format.binary64 q t .exact).1.mantissa = 0 then .zero s
      else .finite s (shiftToTargetExponent Format.binary64 q t .exact).1.mantissa
        (shiftToTargetExponent Format.binary64 q t .exact).2 (Nat.pos_of_ne_zero h)) =
      carried s q t := by
  have htarget := targetExponent_eq q t
  rcases Nat.lt_or_eq_of_le hq with hlt | rfl
  · have hlog : q.log2 ≤ 52 := by
      by_cases hzero : q = 0
      · rw [hzero]
        decide
      · exact Nat.lt_succ_iff.1 ((Nat.log2_lt hzero).2 hlt)
    have hshift : (Format.binary64.targetExponent (totalExponent q t) - t).toNat = 0 := by omega
    have hparts : shiftToTargetExponent Format.binary64 q t .exact = (⟨q, false, false⟩, t) := by
      rw [shiftToTargetExponent, shiftToExponent, hshift]
      exact congrArg _ (Int.add_zero t)
    generalize shiftToTargetExponent Format.binary64 q t .exact = parts at hparts ⊢
    subst hparts
    dsimp only
    rw [carried]
    by_cases hzero : q = 0
    · rw [dif_pos hzero, dif_pos hzero]
    · rw [dif_neg hzero, dif_neg hzero, if_pos hlt]
  · have hshift : (Format.binary64.targetExponent (totalExponent (2 ^ 53) t) - t).toNat = 1 := by
      rw [Nat.log2_two_pow] at htarget
      omega
    have hparts : shiftToTargetExponent Format.binary64 (2 ^ 53) t .exact =
        (⟨2 ^ 52, false, false⟩, t + 1) := by
      rw [shiftToTargetExponent, shiftToExponent, hshift]
      rfl
    generalize shiftToTargetExponent Format.binary64 (2 ^ 53) t .exact = parts at hparts ⊢
    subst hparts
    rfl

/-- **A quotient is rounded as a whole**, at the exponent that leaves 53 bits of it. -/
theorem roundWithAccuracy_eq (s : Sign) (n : Nat) (hd : 0 < d)
    (he : e ≤ Format.binary64.targetExponent (totalExponent (n / d) e)) :
    let t := Format.binary64.targetExponent (totalExponent (n / d) e)
    roundWithAccuracy Format.binary64 s (n / d) e (accuracyOfFraction (n % d) d) =
      carried s (roundHalfEven n (d * 2 ^ (t - e).toNat)) t := by
  intro t
  have htarget : t = max ((n / d).log2 + e - 52) (-1074) := targetExponent_eq _ _
  have hfirst : shiftToTargetExponent Format.binary64 (n / d) e (accuracyOfFraction (n % d) d) =
      (quotient n (d * 2 ^ (t - e).toNat), t) := by
    change (quotient n d >>> (t - e).toNat, e + ((t - e).toNat : Int)) = _
    rw [quotient_shiftRight n hd]
    congr 1
    omega
  have hbits : roundHalfEven n (d * 2 ^ (t - e).toNat) ≤ 2 ^ 53 := by
    refine (roundHalfEven_le _ _).trans (Nat.succ_le_of_lt ?_)
    rw [← Nat.div_div_eq_div_mul]
    exact div_two_pow_lt (by omega)
  unfold roundWithAccuracy
  rw [hfirst]
  dsimp only
  rw [roundedMantissa_quotient]
  exact shiftToTargetExponent_carried s hbits (by omega)

/-- An exact mantissa is a quotient by one. -/
theorem roundWithAccuracy_exact (s : Sign) (m : Nat) (e : Int) :
    roundWithAccuracy Format.binary64 s m e .exact =
      roundWithAccuracy Format.binary64 s (m / 1) e (accuracyOfFraction (m % 1) 1) := by
  rw [Nat.div_one, Nat.mod_one]
  rfl

/-! ## Magnitudes -/

/-- Mantissa and exponent of a float: 53 bits, fewer only at the least exponent. -/
structure Canonical (m : Nat) (e : Int) : Prop where
  short : m < 2 ^ 53
  least : -1074 ≤ e
  greatest : e ≤ 971
  full : 2 ^ 52 ≤ m ∨ e = -1074

/-- The float is zero or has a magnitude below `2 ^ bound`. -/
inductive Below (bound : Int) : UnpackedFloat → Prop
  | zero (s : Sign) : Below bound (.zero s)
  | finite (s : Sign) {m : Nat} {e : Int} (hm : 0 < m) : Canonical m e →
    totalExponent m e ≤ bound → Below bound (.finite s m e hm)

theorem Below.mono (h : Below bound u) (hle : bound ≤ bound') : Below bound' u := by
  cases h with
  | zero s => exact .zero s
  | finite s hm hcanonical hm' => exact .finite s hm hcanonical (hm'.trans hle)

theorem Below.neg (h : Below bound u) : Below bound u.neg := by
  cases h with
  | zero s => exact .zero _
  | finite s hm hcanonical hm' => exact .finite _ hm hcanonical hm'

theorem below_carried (s : Sign) (hfull : 2 ^ 52 ≤ q ∨ t = -1074) (ht : -1074 ≤ t)
    (hbound : t + 53 ≤ bound) (hhigh : bound < 1024) : Below (bound + 1) (carried s q t) := by
  rw [carried]
  by_cases hzero : q = 0
  · rw [dif_pos hzero]
    exact .zero s
  · rw [dif_neg hzero]
    by_cases hshort : q < 2 ^ 53
    · rw [if_pos hshort]
      have hlog := (Nat.log2_lt hzero).2 hshort
      refine .finite s _ ⟨hshort, ht, by omega, hfull⟩ ?_
      unfold totalExponent
      omega
    · rw [if_neg hshort]
      refine .finite s _ ⟨by decide, by omega, by omega, .inl (by decide)⟩ ?_
      rw [totalExponent, Nat.log2_two_pow]
      omega

/-- **Rounding leads no further than to the next power of two.** -/
theorem below_roundWithAccuracy (s : Sign) (hd : 0 < d)
    (he : e ≤ Format.binary64.targetExponent (totalExponent (n / d) e))
    (hbound : totalExponent (n / d) e ≤ bound) (hlow : -1021 ≤ bound) (hhigh : bound < 1024) :
    Below (bound + 1)
      (roundWithAccuracy Format.binary64 s (n / d) e (accuracyOfFraction (n % d) d)) := by
  have htarget := targetExponent_eq (n / d) e
  unfold totalExponent at hbound
  rw [roundWithAccuracy_eq s n hd he]
  generalize Format.binary64.targetExponent (totalExponent (n / d) e) = t at *
  refine below_carried s ?_ (by omega) (by omega) hhigh
  by_cases hleast : t = -1074
  · exact .inr hleast
  · have hquotient : n / d ≠ 0 := by
      intro hzero
      have hnone : (0 : Nat).log2 = 0 := rfl
      rw [hzero] at htarget
      omega
    left
    calc 2 ^ 52 ≤ n / d / 2 ^ (t - e).toNat := le_div_two_pow hquotient (by omega)
      _ = n / (d * 2 ^ (t - e).toNat) := Nat.div_div_eq_div_mul _ _ _
      _ ≤ _ := div_le_roundHalfEven _ _

theorem below_round (s : Sign) (hm : m ≠ 0) (hbound : totalExponent m e ≤ bound)
    (hlow : -1021 ≤ bound) (hhigh : bound < 1024) :
    Below (bound + 1) (UnpackedFloat.round Format.binary64 s m e) := by
  have htarget := targetExponent_eq m e
  unfold UnpackedFloat.round
  generalize Format.binary64.targetExponent (totalExponent m e) = t at *
  unfold decreaseExponent
  dsimp only
  rw [roundWithAccuracy_exact, Nat.shiftLeft_eq]
  have hlog := log2_mul_two_pow hm (e - t).toNat
  refine below_roundWithAccuracy s (by decide) ?_ ?_ hlow hhigh
  · rw [targetExponent_eq, Nat.div_one]
    omega
  · unfold totalExponent at hbound ⊢
    rw [Nat.div_one]
    omega

theorem below_normalize {m : Int} (z : Sign) (he : e ≤ bound)
    (h : m.natAbs < 2 ^ (bound - e).toNat) (hlow : -1021 ≤ bound) (hhigh : bound < 1024) :
    Below (bound + 1) (UnpackedFloat.normalize Format.binary64 m e z) := by
  have hround (s : Sign) {n : Nat} (hn : n = m.natAbs) (hzero : m ≠ 0) :
      Below (bound + 1) (UnpackedFloat.round Format.binary64 s n e) := by
    subst hn
    have hlog := (Nat.log2_lt (Int.natAbs_ne_zero.2 hzero)).2 h
    refine below_round s (Int.natAbs_ne_zero.2 hzero) ?_ hlow hhigh
    unfold totalExponent
    omega
  unfold UnpackedFloat.normalize
  split
  · rename_i hlt
    have := Int.compare_eq_lt.1 hlt
    exact hround _ (by omega) (by omega)
  · exact .zero z
  · rename_i hgt
    have := Int.compare_eq_gt.1 hgt
    exact hround _ (by omega) (by omega)

/-! ## Operations -/

/-- A mantissa written at a lower exponent stays below the bound of its number. -/
theorem shiftLeft_lt {low : Int} (h : totalExponent m e ≤ bound) (hlow : low ≤ e) :
    m <<< (e - low).toNat < 2 ^ (bound - low).toNat := by
  rw [Nat.shiftLeft_eq]
  unfold totalExponent at h
  calc m * 2 ^ (e - low).toNat < 2 ^ (m.log2 + 1) * 2 ^ (e - low).toNat :=
        Nat.mul_lt_mul_of_pos_right Nat.lt_log2_self (Nat.two_pow_pos _)
    _ = 2 ^ (m.log2 + 1 + (e - low).toNat) := (Nat.pow_add _ _ _).symm
    _ ≤ 2 ^ (bound - low).toNat := Nat.pow_le_pow_right (by decide) (by omega)

theorem natAbs_apply (s : Sign) (n : Nat) : (s.apply n).natAbs = n := by
  cases s with
  | negative => exact Int.natAbs_neg _
  | positive => rfl

theorem Below.add (hu : Below bound u) (hv : Below bound v) (hlow : -1021 ≤ bound)
    (hhigh : bound < 1023) : Below (bound + 2) (UnpackedFloat.add Format.binary64 u v) := by
  cases hu with
  | zero s =>
    cases hv with
    | zero s' =>
      change Below _ (if s == s' then .zero s else .zero .positive)
      split <;> exact .zero _
    | finite s' hm' hcanonical' h' => exact .finite s' hm' hcanonical' (by omega)
  | @finite s m e hm hcanonical h =>
    cases hv with
    | zero s' => exact .finite s hm hcanonical (by omega)
    | @finite s' m' e' hm' hcanonical' h' =>
      change Below _ (UnpackedFloat.normalize _ (s.apply (m <<< (e - min e e').toNat : Nat) +
        s'.apply (m' <<< (e' - min e e').toNat : Nat)) (min e e') _)
      have hleft := shiftLeft_lt h (Int.min_le_left e e')
      have hright := shiftLeft_lt h' (Int.min_le_right e e')
      have hroom : min e e' ≤ bound := by
        unfold totalExponent at h
        omega
      have hdouble : 2 ^ (bound + 1 - min e e').toNat = 2 ^ (bound - min e e').toNat * 2 := by
        rw [← Nat.pow_succ]
        congr 1
        omega
      have hsum := Int.natAbs_add_le (s.apply (m <<< (e - min e e').toNat : Nat))
        (s'.apply (m' <<< (e' - min e e').toNat : Nat))
      rw [natAbs_apply, natAbs_apply] at hsum
      have hnormal : Below (bound + 1 + 1)
          (UnpackedFloat.normalize Format.binary64 _ (min e e') .positive) :=
        below_normalize .positive (by omega) (hsum.trans_lt (by omega)) (by omega) (by omega)
      exact hnormal.mono (by omega)

theorem Below.mul (hu : Below bound u) (hv : Below bound' v) (hlow : -1021 ≤ bound + bound')
    (hhigh : bound + bound' < 1024) :
    Below (bound + bound' + 1) (UnpackedFloat.mul Format.binary64 u v) := by
  cases hu with
  | zero s =>
    cases hv with
    | zero s' => exact .zero _
    | finite s' hm' hcanonical' h' => exact .zero _
  | @finite s m e hm hcanonical h =>
    cases hv with
    | zero s' => exact .zero _
    | @finite s' m' e' hm' hcanonical' h' =>
      change Below _ (roundWithAccuracy _ (s * s') (m * m') (e + e') _)
      have hlog := log2_mul_le hm.ne' hm'.ne'
      have hleft := log2_le_log2_mul hm.ne' hm'.ne'
      have hright := log2_le_log2_mul hm'.ne' hm.ne'
      rw [Nat.mul_comm] at hright
      unfold totalExponent at h h'
      rw [roundWithAccuracy_exact]
      refine below_roundWithAccuracy _ (by decide) ?_ ?_ hlow hhigh
      · -- Either factor has 53 bits, or both exponents are the least there is.
        rw [targetExponent_eq, Nat.div_one]
        have hbits := (Nat.le_log2 (k := 52) hm.ne').2
        have hbits' := (Nat.le_log2 (k := 52) hm'.ne').2
        rcases hcanonical.full with hfull | hleast
        · have := hbits hfull
          omega
        · rcases hcanonical'.full with hfull' | hleast'
          · have := hbits' hfull'
            omega
          · omega
      · unfold totalExponent
        rw [Nat.div_one]
        omega

/-- A quotient by a number of at least one. -/
theorem Below.div (hu : Below bound u) (s' : Sign) (hm' : 0 < m') (hone : 1 ≤ totalExponent m' e')
    (hlow : -1021 ≤ bound) (hhigh : bound < 1024) :
    Below (bound + 1) (UnpackedFloat.div Format.binary64 u (.finite s' m' e' hm')) := by
  cases hu with
  | zero s => exact .zero _
  | @finite s m e hm hcanonical h =>
    obtain ⟨low, hlow⟩ : ∃ low, low = min (e - e') (Format.binary64.targetExponent
      (totalExponent m e - totalExponent m' e')) := ⟨_, rfl⟩
    have hdiv : UnpackedFloat.div Format.binary64 (.finite s m e hm) (.finite s' m' e' hm') =
        roundWithAccuracy Format.binary64 (s / s') (m * 2 ^ (e - e' - low).toNat / m') low
          (accuracyOfFraction (m * 2 ^ (e - e' - low).toNat % m') m') := by
      rw [hlow, ← Nat.shiftLeft_eq]
      rfl
    have htarget : Format.binary64.targetExponent (totalExponent m e - totalExponent m' e') =
        max (totalExponent m e - totalExponent m' e' - 53) (-1074) := rfl
    have hshift := log2_mul_two_pow hm.ne' (e - e' - low).toNat
    have hdividend : m * 2 ^ (e - e' - low).toNat ≠ 0 :=
      Nat.mul_ne_zero hm.ne' (Nat.two_pow_pos _).ne'
    have hleast := le_log2_div (k := 52) hm' hdividend
    have hgreatest := log2_div_le (n := m * 2 ^ (e - e' - low).toNat) hm'.ne'
    unfold totalExponent at h hone htarget hlow
    rw [hdiv]
    refine below_roundWithAccuracy _ hm' ?_ ?_ (by omega) hhigh
    · rw [targetExponent_eq]
      by_cases hsubnormal : low ≤ -1074
      · omega
      · have := hleast (by omega)
        omega
    · unfold totalExponent
      by_cases hquotient : m * 2 ^ (e - e' - low).toNat / m' = 0
      · have hnone : (0 : Nat).log2 = 0 := rfl
        rw [hquotient, hnone]
        omega
      · have := hgreatest hquotient
        omega

end PolicyFields.Number
