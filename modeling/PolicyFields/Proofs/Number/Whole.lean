import Mathlib.Data.List.TakeWhile
import PolicyFields.Number.FloatReader
import PolicyFields.Proofs.Number.Bits
import PolicyFields.Proofs.Number.Decimal

/-!
# Whole numbers as floats

* `ofWhole` — a whole number rounded to 53 bits, and `unpack_ofNat`: **a float made from a whole
  number is this one**.
* `nearestWhole` — the whole number that remains, and `nearestWhole_eq_iff`: which whole numbers
  lose nothing.
* `IsExactly` — floats that are whole numbers; `isExactly_of_whole`: **such a float is exactly the
  whole number that remains**.
* `readFloat?_whole` — what a text of digits writes.
-/

namespace PolicyFields.Number

open Float.Model (Format UnpackedFloat totalExponent)
open Float.Model.UnpackedFloat

variable {n k : Nat} {s : Sign}

theorem roundHalfEven_one (n : Nat) : roundHalfEven n 1 = n := by
  rw [roundHalfEven_of_dvd (Nat.mod_one n), Nat.div_one]

/-! ## Rounding to 53 bits -/

/-- A whole number as a float: its 53 leading bits, rounded. -/
def ofWhole (s : Sign) (n : Nat) : UnpackedFloat :=
  carried s (roundHalfEven (n * 2 ^ 52) (2 ^ n.log2)) (n.log2 - 52)

/-- The number that is left of a whole number as a float. -/
def nearestWhole (n : Nat) : Nat := roundHalfEven n (2 ^ (n.log2 - 52)) * 2 ^ (n.log2 - 52)

/-- Zeros behind the point change nothing. -/
theorem roundWithAccuracy_whole (hn : n ≠ 0) {e : Int} (he : e = -(k : Int))
    (hbits : 52 ≤ n.log2 + k) :
    roundWithAccuracy Format.binary64 s (n * 2 ^ k) e .exact = ofWhole s n := by
  have hlog := log2_mul_two_pow hn k
  have htarget := targetExponent_eq (n * 2 ^ k) e
  have hexponent : max (((n * 2 ^ k).log2 : Int) + e - 52) (-1074) = n.log2 - 52 := by omega
  have hshift : (n.log2 - 52 - e : Int).toNat = n.log2 + k - 52 := by omega
  have hdown : n.log2 + k - 52 + 52 = n.log2 + k := by omega
  rw [roundWithAccuracy_exact,
    roundWithAccuracy_eq _ _ (by decide) (by rw [Nat.div_one]; omega), Nat.div_one, Nat.one_mul,
    ofWhole, htarget, hexponent, hshift]
  congr 1
  rw [← roundHalfEven_mul_right (n * 2 ^ k) _ (Nat.two_pow_pos 52),
    ← roundHalfEven_mul_right (n * 2 ^ 52) _ (Nat.two_pow_pos k), ← Nat.pow_add, ← Nat.pow_add,
    hdown, Nat.mul_right_comm]

theorem round_whole (s : Sign) (hn : n ≠ 0) :
    UnpackedFloat.round Format.binary64 s n 0 = ofWhole s n := by
  have htarget := targetExponent_eq n 0
  unfold UnpackedFloat.round
  generalize Format.binary64.targetExponent (totalExponent n 0) = t at *
  unfold decreaseExponent
  dsimp only
  rw [Nat.shiftLeft_eq]
  exact roundWithAccuracy_whole hn (Int.zero_sub _) (by omega)

/-- A whole number of at most 53 bits is written out, with zeros behind. -/
theorem ofWhole_of_short (s : Sign) (hn : n ≠ 0) (hlog : n.log2 ≤ 52) :
    ofWhole s n = .finite s (n * 2 ^ (52 - n.log2)) (n.log2 - 52)
      (Nat.mul_pos (Nat.pos_of_ne_zero hn) (Nat.two_pow_pos _)) := by
  have hexact : roundHalfEven (n * 2 ^ 52) (2 ^ n.log2) = n * 2 ^ (52 - n.log2) := by
    have hup : 52 - n.log2 + n.log2 = 52 := by omega
    rw [← roundHalfEven_one (n * 2 ^ (52 - n.log2)),
      ← roundHalfEven_mul_right _ 1 (Nat.two_pow_pos n.log2), Nat.one_mul, Nat.mul_assoc,
      ← Nat.pow_add, hup]
  have hshort : n * 2 ^ (52 - n.log2) < 2 ^ 53 := by
    calc n * 2 ^ (52 - n.log2) < 2 ^ (n.log2 + 1) * 2 ^ (52 - n.log2) :=
          Nat.mul_lt_mul_of_pos_right Nat.lt_log2_self (Nat.two_pow_pos _)
      _ = 2 ^ 53 := by rw [← Nat.pow_add]; congr 1; omega
  rw [ofWhole, hexact, carried, dif_neg (Nat.mul_ne_zero hn (Nat.two_pow_pos _).ne'), if_pos hshort]

theorem carried_neg (s : Sign) (q : Nat) (t : Int) : (carried s q t).neg = carried (-s) q t := by
  by_cases hzero : q = 0
  · rw [carried, carried, dif_pos hzero, dif_pos hzero]
    rfl
  · by_cases hshort : q < 2 ^ 53
    · rw [carried, carried, dif_neg hzero, dif_neg hzero, if_pos hshort, if_pos hshort]
      rfl
    · rw [carried, carried, dif_neg hzero, dif_neg hzero, if_neg hshort, if_neg hshort]
      rfl

theorem ofWhole_neg (s : Sign) (n : Nat) : (ofWhole s n).neg = ofWhole (-s) n :=
  carried_neg s _ _

theorem below_ofWhole (s : Sign) (hn : n ≠ 0) (hlog : n.log2 < 1023) :
    Below (n.log2 + 2) (ofWhole s n) := by
  rw [← round_whole s hn]
  have hbound : totalExponent n 0 ≤ n.log2 + 1 := by
    unfold totalExponent
    omega
  exact (below_round s hn hbound (by omega) (by omega)).mono (by omega)

/-! ## Conversion -/

/-- **A float made from a whole number** is the number rounded to 53 bits. -/
theorem unpack_ofScientific (hn : n ≠ 0) (hlog : n.log2 < 1023) :
    (Float.ofScientific n false 0).toModel.unpack = ofWhole .positive n := by
  have hbelow := below_ofWhole .positive hn hlog
  unfold Float.ofScientific
  split
  · -- A small number is converted as a word and multiplied by one.
    rename_i hsmall
    have hshort : n.log2 ≤ 52 := Nat.lt_succ_iff.1 ((Nat.log2_lt hn).2 hsmall.1)
    have hword : n.toUInt64.toNat = n := by
      rw [Nat.toUInt64, UInt64.toNat_ofNat']
      omega
    have hpositive : compare (n : Int) 0 = .gt := Int.compare_eq_gt.2 (by omega)
    have hconverted : n.toUInt64.toFloat.toModel.unpack = ofWhole .positive n := by
      change unpack Format.binary64
        (pack Format.binary64 (UnpackedFloat.normalize _ (n.toUInt64.toNat : Int) 0 .positive)) = _
      rw [hword, UnpackedFloat.normalize, hpositive]
      change unpack Format.binary64
        (pack Format.binary64 (UnpackedFloat.round _ .positive n 0)) = _
      rw [round_whole _ hn, hbelow.unpack_pack]
    have hone : (Float.ofBits 4607182418800017408).toModel.unpack =
        .finite .positive (2 ^ 52) (-52) (by decide) := by rfl
    change unpack Format.binary64 (pack Format.binary64 (UnpackedFloat.mul _
      n.toUInt64.toFloat.toModel.unpack (Float.ofBits 4607182418800017408).toModel.unpack)) = _
    rw [hconverted, hone, ofWhole_of_short _ hn hshort]
    change unpack Format.binary64
      (pack Format.binary64 (roundWithAccuracy _ .positive _ _ _)) = _
    rw [Nat.mul_assoc, ← Nat.pow_add,
      roundWithAccuracy_whole hn (k := 52 - n.log2 + 52) (by omega) (by omega),
      hbelow.unpack_pack, ofWhole_of_short _ hn hshort]
  · have hlarge : UnpackedFloat.ofScientific Format.binary64 n 0 = ofWhole .positive n := by
      have hbits : Format.binary64.mantissaBits = 53 := rfl
      have hpower : 10 ^ (0 : Int).toNat = 1 := rfl
      unfold UnpackedFloat.ofScientific
      rw [dif_neg hn, if_neg (by decide), if_neg (by simp), if_pos (by decide)]
      unfold UnpackedFloat.mul
      dsimp only
      rw [hbits, hpower, Nat.shiftLeft_eq, Nat.mul_one]
      exact roundWithAccuracy_whole hn (k := 53) rfl (by omega)
    change unpack Format.binary64
      (pack Format.binary64 (UnpackedFloat.ofScientific _ n 0)) = _
    rw [hlarge, hbelow.unpack_pack]

theorem isBelow_ofNat (h : n < 2 ^ k) (hk : k < 1023) : IsBelow (k + 1) (Float.ofNat n) := by
  by_cases hn : n = 0
  · subst hn
    exact .zero .positive
  · have hlog := (Nat.log2_lt hn).2 h
    change Below _ (Float.ofScientific n false 0).toModel.unpack
    rw [unpack_ofScientific hn (by omega)]
    exact (below_ofWhole _ hn (by omega)).mono (by omega)

/-- A whole number is a float of at least one, unless it is zero. -/
theorem exists_unpack_ofNat (hn : n ≠ 0) (hlog : n.log2 < 1023) :
    ∃ s m e hm, (Float.ofNat n).toModel.unpack = .finite s m e hm ∧ 1 ≤ totalExponent m e := by
  have hunpack : (Float.ofNat n).toModel.unpack = ofWhole .positive n := unpack_ofScientific hn hlog
  have hfull : 2 ^ 52 ≤ roundHalfEven (n * 2 ^ 52) (2 ^ n.log2) := by
    refine le_trans ?_ (div_le_roundHalfEven _ _)
    rw [Nat.le_div_iff_mul_le (Nat.two_pow_pos _), Nat.mul_comm]
    exact Nat.mul_le_mul_right _ (Nat.log2_self_le hn)
  rw [hunpack, ofWhole, carried, dif_neg (by omega)]
  by_cases hshort : roundHalfEven (n * 2 ^ 52) (2 ^ n.log2) < 2 ^ 53
  · have hbits := (Nat.le_log2 (by omega)).2 hfull
    refine ⟨_, _, _, by omega, if_pos hshort, ?_⟩
    unfold totalExponent
    omega
  · refine ⟨_, _, _, by decide, if_neg hshort, ?_⟩
    rw [totalExponent, Nat.log2_two_pow]
    omega

/-! ## Halves away from zero -/

theorem mantissa_ofFloat_lt (x : Float) : (Binary.ofFloat x).mantissa < 2 ^ 53 := by
  have hwritten : x.toBits.toNat % hiddenBit < 2 ^ 52 := Nat.mod_lt _ (by decide)
  have hhidden : hiddenBit = 2 ^ 52 := rfl
  unfold Binary.ofFloat
  dsimp only
  split <;> omega

/-- Rounding to a whole number leads no further than 53 bits, if there is anything to round. -/
theorem IsBelow.roundHalfAway {x : Float} {bound : Int} (hx : IsBelow bound x)
    (hbound : 55 ≤ bound) : IsBelow bound (roundHalfAway x) := by
  unfold Number.roundHalfAway
  dsimp only
  split
  · exact hx
  · rename_i hexponent
    have hmantissa := mantissa_ofFloat_lt x
    have hup : (Binary.ofFloat x).exponent.toNat = 0 := by omega
    have hnumerator : (Binary.ofFloat x).numerator = (Binary.ofFloat x).mantissa := by
      rw [Binary.numerator, hup]
      exact Nat.mul_one _
    have hdenominator : 0 < (Binary.ofFloat x).denominator := Nat.two_pow_pos _
    generalize (Binary.ofFloat x).denominator = d at *
    have hrounded : (2 * (Binary.ofFloat x).numerator + d) / (2 * d) < 2 ^ 54 := by
      rw [hnumerator, Nat.div_lt_iff_lt_mul (by omega)]
      calc 2 * (Binary.ofFloat x).mantissa + d < 2 ^ 54 * 1 + 2 ^ 54 * d := by omega
        _ ≤ 2 ^ 54 * (2 * d) := by omega
    have hwhole : IsBelow bound (Float.ofNat _) :=
      (isBelow_ofNat hrounded (by decide)).mono (by omega)
    split
    · exact hwhole.neg
    · exact hwhole

/-! ## Floats that are whole numbers -/

/-- The float is exactly the whole number. -/
def IsExactly (x : Float) (n : Int) : Prop :=
  isFinite x = true ∧
    (if (Binary.ofFloat x).negative then -((Binary.ofFloat x).numerator : Int)
      else (Binary.ofFloat x).numerator) = n * (Binary.ofFloat x).denominator

instance (x : Float) (n : Int) : Decidable (IsExactly x n) := inferInstanceAs (Decidable (_ ∧ _))

/-- Nothing stands behind the point of such a float. -/
theorem IsExactly.truncate {x : Float} {n : Int} (h : IsExactly x n) : truncate x = n := by
  have hpositive : ((Binary.ofFloat x).denominator : Int) ≠ 0 :=
    Int.natCast_ne_zero.2 (Nat.two_pow_pos _).ne'
  obtain ⟨-, h⟩ := h
  unfold Number.truncate
  dsimp only
  rw [Int.ofNat_eq_natCast, Int.natCast_ediv]
  split at h
  · have hquotient :
        ((Binary.ofFloat x).numerator : Int) = -n * (Binary.ofFloat x).denominator := by
      rw [Int.neg_mul, ← h, Int.neg_neg]
    rw [if_pos ‹_›, hquotient, Int.mul_ediv_cancel _ hpositive, Int.neg_neg]
  · rw [if_neg ‹_›, h, Int.mul_ediv_cancel _ hpositive]

theorem isExactly_of_unpack {x : Float} {m q : Nat} {e : Int} {hm : 0 < m}
    (h : x.toModel.unpack = .finite s m e hm) (hq : m * 2 ^ e.toNat = q * 2 ^ (-e).toNat) :
    IsExactly x (s.apply q) := by
  obtain ⟨hfinite, hbinary⟩ := ofFloat_of_unpack h
  have hvalue : ((m * 2 ^ e.toNat : Nat) : Int) = q * (2 ^ (-e).toNat : Nat) := by
    rw [hq, Int.natCast_mul]
  refine ⟨hfinite, ?_⟩
  rw [hbinary]
  cases s with
  | positive => exact hvalue
  | negative => exact (congrArg Neg.neg hvalue).trans (Int.neg_mul _ _).symm

/-- A bit that has been carried into the exponent is still there. -/
theorem isExactly_of_carried {x : Float} {q : Nat} (hq : q ≠ 0) (hbits : q ≤ 2 ^ 53)
    (h : x.toModel.unpack = carried s q k) : IsExactly x (s.apply (q * 2 ^ k : Nat)) := by
  rw [carried, dif_neg hq] at h
  by_cases hshort : q < 2 ^ 53
  · refine isExactly_of_unpack (h.trans (if_pos hshort)) ?_
    simp
  · rw [if_neg hshort] at h
    obtain rfl : q = 2 ^ 53 := by omega
    have hup : ((k : Int) + 1).toNat = k + 1 := by omega
    have hdown : (-((k : Int) + 1)).toNat = 0 := by omega
    refine isExactly_of_unpack h ?_
    rw [hup, hdown, Nat.pow_succ]
    ring

/-- **A whole number as a float** is exactly what rounding has left of it. -/
theorem isExactly_of_whole {x : Float} (hn : n ≠ 0) (h : x.toModel.unpack = ofWhole s n) :
    IsExactly x (s.apply (nearestWhole n : Nat)) := by
  by_cases hshort : n.log2 ≤ 52
  · rw [ofWhole_of_short s hn hshort] at h
    have hup : (n.log2 - 52 : Int).toNat = 0 := by omega
    have hdown : (-(n.log2 - 52 : Int)).toNat = 52 - n.log2 := by omega
    have hnone : n.log2 - 52 = 0 := by omega
    refine isExactly_of_unpack h ?_
    rw [hup, hdown, nearestWhole, hnone, Nat.pow_zero, Nat.mul_one, roundHalfEven_one, Nat.mul_one]
  · obtain ⟨k, hk⟩ : ∃ k, n.log2 = k + 52 := ⟨n.log2 - 52, by omega⟩
    have hdropped : n.log2 - 52 = k := by omega
    have hexponent : (n.log2 - 52 : Int) = k := by omega
    rw [ofWhole, hexponent, hk, Nat.pow_add, roundHalfEven_mul_right _ _ (Nat.two_pow_pos 52)] at h
    rw [nearestWhole, hdropped]
    refine isExactly_of_carried ?_ ?_ h
    · have hleading := (le_div_two_pow (k := k) hn (by omega)).trans
        (div_le_roundHalfEven n (2 ^ k))
      omega
    · exact (roundHalfEven_le n (2 ^ k)).trans (Nat.succ_le_of_lt (div_two_pow_lt (by omega)))

theorem isExactly_ofNat (hlog : n.log2 < 1023) :
    IsExactly (Float.ofNat n) (nearestWhole n : Nat) := by
  by_cases hn : n = 0
  · subst hn
    have hzero : (Float.ofNat 0).toModel.unpack = .zero .positive := rfl
    obtain ⟨hfinite, hbinary⟩ := ofFloat_of_unpack_zero hzero
    refine ⟨hfinite, ?_⟩
    rw [hbinary]
    exact (Int.zero_mul _).symm
  · exact isExactly_of_whole (s := .positive) hn (unpack_ofScientific hn hlog)

theorem isExactly_neg_ofNat (hn : n ≠ 0) (hlog : n.log2 < 1022) :
    IsExactly (-Float.ofNat n) (-(nearestWhole n : Nat)) := by
  have hunpack : (Float.ofNat n).toModel.unpack = ofWhole .positive n :=
    unpack_ofScientific hn (by omega)
  have hbelow : IsBelow (n.log2 + 1 + 1) (Float.ofNat n) :=
    isBelow_ofNat (k := n.log2 + 1) Nat.lt_log2_self (by omega)
  refine isExactly_of_whole (s := .negative) hn ?_
  rw [hbelow.unpack_neg, hunpack, ofWhole_neg]
  rfl

theorem truncate_neg_ofNat (hn : n ≠ 0) (hlog : n.log2 < 1022) :
    truncate (-Float.ofNat n) = -(nearestWhole n : Nat) :=
  (isExactly_neg_ofNat hn hlog).truncate

/-! ## What is lost -/

/-- Rounding does not lead beyond a power of two. -/
theorem nearestWhole_le (h : n ≤ 2 ^ k) : nearestWhole n ≤ 2 ^ k := by
  by_cases hn : n = 0
  · subst hn
    exact Nat.zero_le _
  · have hlog : n.log2 ≤ k :=
      (Nat.pow_le_pow_iff_right (by decide)).1 ((Nat.log2_self_le hn).trans h)
    have hsplit : 2 ^ k = 2 ^ (k - (n.log2 - 52)) * 2 ^ (n.log2 - 52) := by
      rw [← Nat.pow_add]
      congr 1
      omega
    rw [nearestWhole, hsplit]
    exact Nat.mul_le_mul_right _ (roundHalfEven_le_of_le (Nat.two_pow_pos _) (hsplit ▸ h))

/-- **A whole number loses nothing** if its bits behind the leading 53 are zeros. -/
theorem nearestWhole_eq_iff : nearestWhole n = n ↔ 2 ^ (n.log2 - 52) ∣ n := by
  constructor
  · intro h
    calc 2 ^ (n.log2 - 52) ∣ nearestWhole n := Nat.dvd_mul_left _ _
      _ = n := h
  · intro h
    rw [nearestWhole, roundHalfEven_of_dvd (Nat.mod_eq_zero_of_dvd h), Nat.div_mul_cancel h]

/-- The whole number that is left of one with a sign. -/
def nearestInt (n : Int) : Int := n.sign * nearestWhole n.natAbs

theorem nearestInt_eq_iff {n : Int} :
    nearestInt n = n ↔ 2 ^ (n.natAbs.log2 - 52) ∣ n.natAbs := by
  rw [← nearestWhole_eq_iff, nearestInt]
  by_cases hn : n = 0
  · subst hn
    exact iff_of_true rfl rfl
  · have hsign : n.sign ≠ 0 := mt Int.sign_eq_zero_iff_zero.1 hn
    calc n.sign * (nearestWhole n.natAbs : Int) = n
        ↔ n.sign * (nearestWhole n.natAbs : Int) = n.sign * n.natAbs := by rw [Int.sign_mul_natAbs]
      _ ↔ nearestWhole n.natAbs = n.natAbs := by rw [Int.mul_eq_mul_left_iff hsign, Int.natCast_inj]

/-! ## Reading -/

theorem ofDigits_whole (hn : n ≠ 0) (hlength : (Nat.toDigits 10 n).length ≤ 310) :
    ofDigits n 0 = Float.ofNat n := by
  have htop : ¬ (0 + Int.ofNat (Nat.toDigits 10 n).length > 310) := by
    rw [Int.ofNat_eq_natCast]
    omega
  have hbottom : ¬ (0 + Int.ofNat (Nat.toDigits 10 n).length < -330) := by
    rw [Int.ofNat_eq_natCast]
    omega
  exact (if_neg hn).trans ((if_neg htop).trans (if_neg hbottom))

theorem toLower_of_isDigit {d : Char} (hd : d.isDigit = true) : d.toLower = d := by
  have hdigit : d.toNat ≤ 57 := (Char.isDigit_iff_toNat.1 hd).2
  refine dif_neg fun hcapital => ?_
  have hletter : 65 ≤ d.toNat := UInt32.le_iff_toNat_le.1 hcapital.1
  omega

/-- Digits are no name of a float. -/
theorem ofList_digits_ne {ds : List Char} (hne : ds ≠ []) (hds : AllDigits ds) (word : String)
    (hword : (word.toList.all fun c => !c.isDigit) = true) :
    (String.ofList (ds.map Char.toLower) == word) = false := by
  rw [beq_eq_false_iff_ne]
  rintro rfl
  obtain ⟨d, hd⟩ := List.exists_mem_of_ne_nil ds hne
  rw [String.toList_ofList, List.all_eq_true] at hword
  have hother := hword d (List.mem_map.2 ⟨d, hd, toLower_of_isDigit (hds d hd)⟩)
  rw [hds d hd] at hother
  cases hother

theorem readMagnitude?_digits {ds : List Char} (hne : ds ≠ []) (hds : AllDigits ds) :
    readMagnitude? ds = some (ofDigits (Nat.ofDigitChars 10 ds 0) 0) := by
  have hspan : spanDigits ds = (ds, []) := by
    rw [spanDigits, List.span_eq_takeWhile_dropWhile, List.takeWhile_eq_self_iff.2 hds,
      List.dropWhile_eq_nil_iff.2 hds]
  have hempty : ds.isEmpty = false := by rw [List.isEmpty_eq_false_iff]; exact hne
  simp only [readMagnitude?, hspan, hempty, Bool.false_and, List.append_nil]
  rfl

/-- **Digits behind a minus** write the negated float of their number. -/
theorem readFloat?_minus {ds : List Char} (hne : ds ≠ []) (hds : AllDigits ds) :
    readFloat? (String.ofList ('-' :: ds)) = some (-ofDigits (Nat.ofDigitChars 10 ds 0) 0) := by
  have hinf := ofList_digits_ne hne hds "inf" (by decide)
  have hinfinity := ofList_digits_ne hne hds "infinity" (by decide)
  have hnan := ofList_digits_ne hne hds "nan" (by decide)
  rw [readFloat?, String.toList_ofList, readSign]
  simp only [hinf, hinfinity, hnan, readMagnitude?_digits hne hds]
  rfl

end PolicyFields.Number
