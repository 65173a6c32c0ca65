import PolicyFields.Proofs.Number.Rounding

/-!
# The bits of a float

* `unpack_of_ones`, `unpack_of_ne_ones` — what the sign, the exponent and the mantissa stand for.
* `unpack_pack_finite` — **a float is read back from its bits**.
* `ofFloat_of_unpack`, `ofFloat_of_unpack_zero` — `Binary.ofFloat` reads off the same sign, mantissa
  and exponent.
* `beq_self` — a finite float is equal to itself; `beq_zero_iff` — only zeros are equal to zero.
* `IsBelow` — floats below a power of two, with a lemma for each operation: `unpack_add`,
  `IsBelow.add` and so on; **they are finite**.
-/

namespace PolicyFields.Number

open Float.Model (Format UnpackedFloat totalExponent)
open Float.Model.UnpackedFloat

/-! ## Packing -/

theorem unpackSign_packComponents (s : Sign) (e : BitVec 11) (m : BitVec 52) :
    unpackSign (packComponents Format.binary64 s e m) = s.toBitVec := by
  change (s.toBitVec ++ e ++ m).extractLsb' 63 1 = s.toBitVec
  rw [BitVec.extractLsb'_append_eq_of_le (by decide),
    BitVec.extractLsb'_append_eq_of_le (by decide)]
  cases s <;> rfl

theorem unpack_pack_zero (s : Sign) :
    unpack Format.binary64 (pack Format.binary64 (.zero s)) = .zero s := by
  cases s <;> rfl

/-- The leading bit stands before the written ones. -/
theorem toNat_leadingBit (m : BitVec 52) : (1#1 ++ m).toNat = 2 ^ 52 + m.toNat := by
  rw [BitVec.toNat_append, ← Nat.shiftLeft_add_eq_or_of_lt m.isLt, Nat.shiftLeft_eq]
  rfl

theorem ofBitVec_toBitVec (s : Sign) : Sign.ofBitVec s.toBitVec = s := by
  cases s <;> rfl

/-- The proof that the mantissa is positive does not matter. -/
theorem finite_eq_finite {s : Sign} {m m' : Nat} {e e' : Int} {hm : 0 < m} {hm' : 0 < m'}
    (hmantissa : m = m') (hexponent : e = e') :
    UnpackedFloat.finite s m e hm = .finite s m' e' hm' := by
  subst hmantissa hexponent
  rfl

/-- What the three parts of the bits stand for. -/
theorem unpack_eq (b : BitVec 64) :
    unpack Format.binary64 b =
      if @unpackExponent Format.binary64 b = -1#11 then
        if @unpackMantissa Format.binary64 b = 0#52 then
          .infinity (Sign.ofBitVec (@unpackSign Format.binary64 b))
        else .notANumber
      else if @unpackExponent Format.binary64 b = 0#11 then
        if h : @unpackMantissa Format.binary64 b = 0#52 then
          .zero (Sign.ofBitVec (@unpackSign Format.binary64 b))
        else
          .finite (Sign.ofBitVec (@unpackSign Format.binary64 b))
            (@unpackMantissa Format.binary64 b).toNat (-1074)
            (Nat.pos_of_ne_zero fun hm => h (BitVec.eq_of_toNat_eq hm))
      else
        .finite (Sign.ofBitVec (@unpackSign Format.binary64 b))
          (2 ^ 52 + (@unpackMantissa Format.binary64 b).toNat)
          ((@unpackExponent Format.binary64 b).toNat - 1075) (by omega) := by
  refine if_congr Iff.rfl rfl (ite_congr rfl (fun hzero => ?_) fun _ => ?_)
  · refine dite_congr rfl (fun _ => rfl) fun _ => finite_eq_finite rfl ?_
    rw [hzero]
    rfl
  · exact finite_eq_finite (toNat_leadingBit _) rfl

theorem unpack_of_ones {b : BitVec 64} (h : @unpackExponent Format.binary64 b = -1#11) :
    (∃ s, unpack Format.binary64 b = .infinity s) ∨
      unpack Format.binary64 b = .notANumber := by
  rw [unpack_eq, if_pos h]
  by_cases hm : @unpackMantissa Format.binary64 b = 0#52
  · exact .inl ⟨_, if_pos hm⟩
  · exact .inr (if_neg hm)

theorem unpack_of_ne_ones {b : BitVec 64} (h : @unpackExponent Format.binary64 b ≠ -1#11) :
    (@unpackExponent Format.binary64 b = 0#11 ∧ @unpackMantissa Format.binary64 b = 0#52 ∧
      unpack Format.binary64 b = .zero (Sign.ofBitVec (@unpackSign Format.binary64 b))) ∨
    (@unpackExponent Format.binary64 b = 0#11 ∧ ∃ hm,
      unpack Format.binary64 b = .finite (Sign.ofBitVec (@unpackSign Format.binary64 b))
        (@unpackMantissa Format.binary64 b).toNat (-1074) hm) ∨
    (@unpackExponent Format.binary64 b ≠ 0#11 ∧ ∃ hm,
      unpack Format.binary64 b = .finite (Sign.ofBitVec (@unpackSign Format.binary64 b))
        (2 ^ 52 + (@unpackMantissa Format.binary64 b).toNat)
        ((@unpackExponent Format.binary64 b).toNat - 1075) hm) := by
  rw [unpack_eq, if_neg h]
  by_cases hzero : @unpackExponent Format.binary64 b = 0#11
  · rw [if_pos hzero]
    by_cases hm : @unpackMantissa Format.binary64 b = 0#52
    · exact .inl ⟨hzero, hm, dif_pos hm⟩
    · exact .inr (.inl ⟨hzero, _, dif_neg hm⟩)
  · exact .inr (.inr ⟨hzero, _, if_neg hzero⟩)

theorem unpack_packComponents (s : Sign) (e : BitVec 11) (m : BitVec 52) (he : e ≠ -1#11) :
    unpack Format.binary64 (packComponents Format.binary64 s e m) =
      if e = 0#11 then
        if h : m = 0#52 then .zero s
        else .finite s m.toNat (-1074) (Nat.pos_of_ne_zero fun hm => h (BitVec.eq_of_toNat_eq hm))
      else .finite s (2 ^ 52 + m.toNat) (e.toNat - 1075) (by omega) := by
  have hsign := unpackSign_packComponents s e m
  have hexponent : unpackExponent (packComponents Format.binary64 s e m) = e :=
    unpackExponent_packComponents
  have hmantissa : unpackMantissa (packComponents Format.binary64 s e m) = m :=
    unpackMantissa_packComponents
  -- Only the three parts of the bits matter.
  generalize packComponents Format.binary64 s e m = b at hsign hexponent hmantissa ⊢
  subst hmantissa hexponent
  rw [unpack_eq, hsign, ofBitVec_toBitVec, if_neg he]

/-- **A float is read back from its bits.** -/
theorem unpack_pack_finite (s : Sign) {m : Nat} {e : Int} (hm : 0 < m) (h : Canonical m e) :
    unpack Format.binary64 (pack Format.binary64 (.finite s m e hm)) = .finite s m e hm := by
  obtain ⟨hshort, hleast, hgreatest, hfull⟩ := h
  have hbiased : (e + Format.binary64.exponentBias + (52 : Nat)).toNat = (e + 1075).toNat := by
    change (e + 1023 + 52).toNat = _
    omega
  have hfits : ¬ 2 ^ 11 ≤ (e + 1075).toNat + 1 := by omega
  delta pack
  dsimp only
  rw [hbiased, if_neg hfits]
  by_cases hlead : 2 ^ 52 ≤ m
  · have hbits : m.log2 + 1 = Format.binary64.mantissaBits := by
      have hlower := (Nat.le_log2 hm.ne').2 hlead
      have hupper := (Nat.log2_lt hm.ne').2 hshort
      change m.log2 + 1 = 53
      omega
    have hexponent : (BitVec.ofNat 11 (e + 1075).toNat).toNat = (e + 1075).toNat := by
      rw [BitVec.toNat_ofNat]
      omega
    have hones : BitVec.ofNat 11 (e + 1075).toNat ≠ -1#11 := fun heq => by
      have hlast : (e + 1075).toNat = 2047 := hexponent.symm.trans (congrArg BitVec.toNat heq)
      omega
    have hzero : BitVec.ofNat 11 (e + 1075).toNat ≠ 0#11 := fun heq => by
      have hfirst : (e + 1075).toNat = 0 := hexponent.symm.trans (congrArg BitVec.toNat heq)
      omega
    rw [if_pos hbits, unpack_packComponents _ _ _ hones, if_neg hzero]
    refine finite_eq_finite ?_ ?_
    · rw [BitVec.toNat_ofNat]
      omega
    · rw [hexponent]
      omega
  · have hbits : m.log2 + 1 ≠ Format.binary64.mantissaBits := by
      have hupper := (Nat.log2_lt hm.ne').2 (Nat.not_le.1 hlead)
      change m.log2 + 1 ≠ 53
      omega
    have hwritten : (BitVec.ofNat 52 m).toNat = m := by
      rw [BitVec.toNat_ofNat]
      omega
    have hzero : BitVec.ofNat 52 m ≠ 0#52 := fun heq => by
      have hnone : m = 0 := hwritten.symm.trans (congrArg BitVec.toNat heq)
      omega
    rw [if_neg hbits, unpack_packComponents _ _ _ (by decide), if_pos rfl, dif_neg hzero]
    exact finite_eq_finite hwritten (hfull.resolve_left hlead).symm

/-! ## Bits of a float -/

theorem toNat_unpackExponent (b : BitVec 64) :
    (@unpackExponent Format.binary64 b).toNat = b.toNat / 2 ^ 52 % 2 ^ 11 := by
  change (b.extractLsb 62 52).toNat = _
  rw [BitVec.extractLsb_toNat, Nat.shiftRight_eq_div_pow]

theorem toNat_unpackMantissa (b : BitVec 64) :
    (@unpackMantissa Format.binary64 b).toNat = b.toNat % 2 ^ 52 := by
  change (b.extractLsb 51 0).toNat = _
  rw [BitVec.extractLsb_toNat, Nat.shiftRight_zero]

theorem toNat_unpackSign (b : BitVec 64) :
    (@unpackSign Format.binary64 b).toNat = b.toNat / 2 ^ 63 := by
  change (b.extractLsb 63 63).toNat = _
  rw [BitVec.extractLsb_toNat, Nat.shiftRight_eq_div_pow]
  have := b.isLt
  omega

/-- Whether the sign is a minus. -/
def isMinus : Sign → Bool
  | .negative => true
  | .positive => false

theorem isMinus_ofBitVec (b : BitVec 1) : isMinus (Sign.ofBitVec b) = (b.toNat == 1) := by
  have hb : b = 0#1 ∨ b = 1#1 := by
    have := b.isLt
    rcases (by omega : b.toNat = 0 ∨ b.toNat = 1) with h | h
    · exact .inl (BitVec.eq_of_toNat_eq h)
    · exact .inr (BitVec.eq_of_toNat_eq h)
  rcases hb with rfl | rfl <;> rfl

/-- The bits of a float as one number. -/
abbrev word (x : Float) : BitVec 64 := x.toBits.toBitVec

theorem exponentBits_eq (x : Float) :
    exponentBits x = (@unpackExponent Format.binary64 (word x)).toNat :=
  (toNat_unpackExponent (word x)).symm

theorem mantissaBits_eq (x : Float) : x.toBits.toNat % hiddenBit =
    (@unpackMantissa Format.binary64 (word x)).toNat :=
  (toNat_unpackMantissa (word x)).symm

theorem signBit_eq (x : Float) : (x.toBits.toNat / signBit == 1) =
    isMinus (.ofBitVec (@unpackSign Format.binary64 (word x))) := by
  rw [isMinus_ofBitVec, toNat_unpackSign]
  rfl

theorem isFinite_iff (x : Float) :
    isFinite x = true ↔ @unpackExponent Format.binary64 (word x) ≠ -1#11 := by
  rw [isFinite, bne_iff_ne, exponentBits_eq]
  exact not_congr ⟨fun h => BitVec.eq_of_toNat_eq h, fun h => congrArg BitVec.toNat h⟩

/-- **Sign, mantissa and exponent are read off the bits.** -/
theorem ofFloat_of_unpack {x : Float} {s : Sign} {m : Nat} {e : Int} {hm : 0 < m}
    (h : x.toModel.unpack = .finite s m e hm) :
    isFinite x = true ∧ Binary.ofFloat x = ⟨isMinus s, m, e⟩ := by
  change unpack Format.binary64 (word x) = _ at h
  rw [isFinite_iff, Binary.ofFloat, exponentBits_eq, mantissaBits_eq, signBit_eq]
  have hones : @unpackExponent Format.binary64 (word x) ≠ -1#11 := fun hones => by
    obtain ⟨s', hs⟩ | hs := unpack_of_ones hones <;> cases hs.symm.trans h
  refine ⟨hones, ?_⟩
  obtain ⟨-, -, hs⟩ | ⟨hzero, _, hs⟩ | ⟨hzero, _, hs⟩ := unpack_of_ne_ones hones
  · cases hs.symm.trans h
  · obtain ⟨rfl, rfl, rfl⟩ := UnpackedFloat.finite.inj (hs.symm.trans h)
    rw [hzero]
    rfl
  · obtain ⟨rfl, rfl, rfl⟩ := UnpackedFloat.finite.inj (hs.symm.trans h)
    have hnonzero : (@unpackExponent Format.binary64 (word x)).toNat ≠ 0 := fun heq =>
      hzero (BitVec.eq_of_toNat_eq heq)
    rw [if_neg hnonzero, if_neg hnonzero]
    rfl

theorem ofFloat_of_unpack_zero {x : Float} {s : Sign} (h : x.toModel.unpack = .zero s) :
    isFinite x = true ∧ Binary.ofFloat x = ⟨isMinus s, 0, -1074⟩ := by
  change unpack Format.binary64 (word x) = _ at h
  rw [isFinite_iff, Binary.ofFloat, exponentBits_eq, mantissaBits_eq, signBit_eq]
  have hones : @unpackExponent Format.binary64 (word x) ≠ -1#11 := fun hones => by
    obtain ⟨s', hs⟩ | hs := unpack_of_ones hones <;> cases hs.symm.trans h
  refine ⟨hones, ?_⟩
  obtain ⟨hzero, hnone, hs⟩ | ⟨-, _, hs⟩ | ⟨-, _, hs⟩ := unpack_of_ne_ones hones
  · cases hs.symm.trans h
    rw [hzero, hnone]
    rfl
  · cases hs.symm.trans h
  · cases hs.symm.trans h

/-! ## Equality -/

theorem compare_self {u : UnpackedFloat} (h : u ≠ .notANumber) : u.compare u = some .eq := by
  cases u with
  | notANumber => exact absurd rfl h
  | infinity s => cases s <;> rfl
  | zero s => rfl
  | finite s m e hm =>
    have hsame : (compare e e).then (compare m m) = .eq := by
      rw [compare_eq_iff_eq.2 rfl, compare_eq_iff_eq.2 rfl]
      rfl
    cases s with
    | positive => exact congrArg some hsame
    | negative => exact congrArg (some ·.swap) hsame

/-- Only what is not a number differs from itself. -/
theorem beq_self {x : Float} (h : isFinite x = true) : (x == x) = true := by
  have hnumber : x.toModel.unpack ≠ .notANumber := by
    rw [isFinite_iff] at h
    change unpack Format.binary64 (word x) ≠ _
    obtain ⟨-, -, hs⟩ | ⟨-, _, hs⟩ | ⟨-, _, hs⟩ := unpack_of_ne_ones h <;>
      exact hs.trans_ne UnpackedFloat.noConfusion
  change (x.toModel.unpack.compare x.toModel.unpack == some .eq) = true
  rw [compare_self hnumber]
  rfl

/-- Only zeros are equal to zero. -/
theorem beq_zero_iff {x : Float} : (x == 0.0) = true ↔ ∃ s, x.toModel.unpack = .zero s := by
  have hzero : (0.0 : Float).toModel.unpack = .zero .positive := rfl
  change (x.toModel.unpack.compare (0.0 : Float).toModel.unpack == some .eq) = true ↔ _
  rw [hzero]
  cases x.toModel.unpack with
  | notANumber => exact iff_of_false nofun nofun
  | infinity s => cases s <;> exact iff_of_false nofun nofun
  | zero s => exact iff_of_true rfl ⟨s, rfl⟩
  | finite s m e hm => cases s <;> exact iff_of_false nofun nofun

/-! ## Operations on bounded floats -/

theorem Below.unpack_pack {bound : Int} {u : UnpackedFloat} (h : Below bound u) :
    unpack Format.binary64 (pack Format.binary64 u) = u := by
  cases h with
  | zero s => exact unpack_pack_zero s
  | finite s hm hcanonical _ => exact unpack_pack_finite s hm hcanonical

/-- The float is zero or has a magnitude below `2 ^ bound`. -/
def IsBelow (bound : Int) (x : Float) : Prop := Below bound x.toModel.unpack

namespace IsBelow

variable {bound bound' : Int} {x y : Float}

theorem mono (h : IsBelow bound x) (hle : bound ≤ bound') : IsBelow bound' x := Below.mono h hle

theorem isFinite (h : IsBelow bound x) : isFinite x = true := by
  unfold IsBelow at h
  generalize hu : x.toModel.unpack = u at h
  cases h with
  | zero s => exact (ofFloat_of_unpack_zero hu).1
  | finite s hm _ _ => exact (ofFloat_of_unpack hu).1

theorem unpack_neg (h : IsBelow bound x) : (-x).toModel.unpack = x.toModel.unpack.neg := by
  change unpack Format.binary64 (pack Format.binary64 x.toModel.unpack.neg) = _
  exact (Below.neg h).unpack_pack

theorem neg (h : IsBelow bound x) : IsBelow bound (-x) := by
  unfold IsBelow
  rw [h.unpack_neg]
  exact Below.neg h

theorem add (hx : IsBelow bound x) (hy : IsBelow bound y) (hlow : -1021 ≤ bound)
    (hhigh : bound < 1023) : IsBelow (bound + 2) (x + y) := by
  have hsum := Below.add hx hy hlow hhigh
  change Below (bound + 2) (unpack Format.binary64 (pack Format.binary64 (UnpackedFloat.add _ _ _)))
  rwa [hsum.unpack_pack]

theorem mul (hx : IsBelow bound x) (hy : IsBelow bound' y) (hlow : -1021 ≤ bound + bound')
    (hhigh : bound + bound' < 1024) : IsBelow (bound + bound' + 1) (x * y) := by
  have hproduct := Below.mul hx hy hlow hhigh
  change Below _ (unpack Format.binary64 (pack Format.binary64 (UnpackedFloat.mul _ _ _)))
  rwa [hproduct.unpack_pack]

theorem div {s : Sign} {m : Nat} {e : Int} {hm : 0 < m} (hx : IsBelow bound x)
    (hy : y.toModel.unpack = .finite s m e hm) (hone : 1 ≤ totalExponent m e)
    (hlow : -1021 ≤ bound) (hhigh : bound < 1024) : IsBelow (bound + 1) (x / y) := by
  have hquotient := Below.div hx s hm hone hlow hhigh
  change Below _ (unpack Format.binary64 (pack Format.binary64 (UnpackedFloat.div _ _ _)))
  rw [hy]
  rwa [hquotient.unpack_pack]

end IsBelow

end PolicyFields.Number
