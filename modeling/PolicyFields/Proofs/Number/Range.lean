import PolicyFields.Number.Decimal
import PolicyFields.Proofs.Number.Whole

/-!
# The range of decimals

* `Decimal.Fits` — fewer than 96 bits of units and at most 28 places; **whatever is read, rounded or
  made from a float fits**.
* `Decimal.mul?_eq_none_iff` — **a product is out of range iff, rounded to a whole number, it has
  more than 96 bits**.
* `Decimal.isFinite_toFloat` — **a decimal that fits is a finite float**.
-/

namespace PolicyFields.Number.Decimal

variable {a b d : Decimal} {m n u p fuel drop : Nat}

/-- A decimal in its range. -/
structure Fits (d : Decimal) : Prop where
  units : d.units < unitBound
  scale : d.scale ≤ maxScale

theorem fits_zero : zero.Fits := ⟨by decide, by decide⟩

theorem fits_one : one.Fits := ⟨by decide, by decide⟩

theorem fits_ofInt {i : Int} (h : i.natAbs < unitBound) : (ofInt i).Fits := ⟨h, Nat.zero_le _⟩

theorem Fits.truncate (h : d.Fits) : d.truncate.Fits :=
  ⟨(Nat.div_le_self _ _).trans_lt h.units, Nat.zero_le _⟩

/-! ## Reading -/

theorem readWhole?_lt {cs : List Char} (hm : m < unitBound) (h : readWhole? m cs = some u) :
    u < unitBound := by
  by_cases hfits : Nat.ofDigitChars 10 cs m < unitBound
  · rw [readWhole?_eq_some hfits] at h
    exact Option.some.inj h ▸ hfits
  · rw [readWhole?_eq_none hm (Nat.not_lt.1 hfits)] at h
    cases h

theorem roundOff?_fits {s t d : Nat} (hm : m < unitBound) (hs : s ≤ maxScale)
    (h : roundOff? m s d = some (u, t)) : u < unitBound ∧ t ≤ maxScale := by
  unfold roundOff? at h
  split_ifs at h
  · obtain ⟨rfl, rfl⟩ := Prod.mk.inj (Option.some.inj h)
    exact ⟨hm, hs⟩
  · obtain ⟨rfl, rfl⟩ := Prod.mk.inj (Option.some.inj h)
    exact ⟨by assumption, hs⟩
  · obtain ⟨rfl, rfl⟩ := Prod.mk.inj (Option.some.inj h)
    exact ⟨by omega, by omega⟩

theorem readFraction?_fits {cs : List Char} {s t : Nat} (hm : m < unitBound) (hs : s ≤ maxScale)
    (h : readFraction? m s cs = some (u, t)) : u < unitBound ∧ t ≤ maxScale := by
  induction cs generalizing m s with
  | nil =>
    obtain ⟨rfl, rfl⟩ := Prod.mk.inj (Option.some.inj h)
    exact ⟨hm, hs⟩
  | cons c cs ih =>
    rw [readFraction?] at h
    split at h
    · rename_i hroom
      exact ih hroom.2 hroom.1 h
    · exact roundOff?_fits hm hs h

/-- What is read from digits fits. -/
theorem ofDigits?_fits {whole fraction : List Char} (h : ofDigits? whole fraction = some d) :
    d.Fits := by
  obtain ⟨m, hm, hfraction⟩ := Option.bind_eq_some_iff.1 h
  obtain ⟨⟨u, t⟩, hu, rfl⟩ := Option.map_eq_some_iff.1 hfraction
  have hfits := readFraction?_fits (readWhole?_lt (by decide) hm) (Nat.zero_le _) hu
  exact ⟨hfits.1, hfits.2⟩

/-! ## Products -/

/-- The digits that are dropped are the fewest whose removal is enough. -/
theorem fittingDrop_spec (h : n / 10 ^ (drop + fuel) < unitBound) :
    drop ≤ fittingDrop n fuel drop ∧ n / 10 ^ fittingDrop n fuel drop < unitBound ∧
      ∀ j, drop ≤ j → j < fittingDrop n fuel drop → unitBound ≤ n / 10 ^ j := by
  induction fuel generalizing drop with
  | zero => exact ⟨Nat.le_refl _, h, fun j hle hlt => absurd hle (Nat.not_le.2 hlt)⟩
  | succ fuel ih =>
    unfold fittingDrop
    split
    · rename_i hfits
      exact ⟨Nat.le_refl _, hfits, fun j hle hlt => absurd hle (Nat.not_le.2 hlt)⟩
    · rename_i hlarge
      have hnext : n / 10 ^ (drop + 1 + fuel) < unitBound := by rwa [Nat.add_right_comm]
      obtain ⟨hle, hfits, hleast⟩ := ih hnext
      refine ⟨by omega, hfits, fun j hj hlt => ?_⟩
      rcases Nat.lt_or_eq_of_le hj with hj | rfl
      · exact hleast j hj hlt
      · exact Nat.not_lt.1 hlarge

/-- Both units fit, so 60 digits are more than there are to drop. -/
theorem product_div_lt (ha : a.Fits) (hb : b.Fits) (k : Nat) :
    a.units * b.units / 10 ^ (k + 60) < unitBound := by
  have hproduct : a.units * b.units < 10 ^ 60 :=
    (Nat.mul_lt_mul'' ha.units hb.units).trans_le (by decide)
  have hpower : 10 ^ 60 ≤ 10 ^ (k + 60) := Nat.pow_le_pow_right (by decide) (Nat.le_add_left _ _)
  rw [Nat.div_eq_of_lt (hproduct.trans_le hpower)]
  decide

/-- With one digit more dropped there is room to round up. -/
theorem roundHalfEven_lt_unitBound (h : n / 10 ^ drop < unitBound) (hlt : drop < m) :
    roundHalfEven n (10 ^ m) < unitBound := by
  obtain ⟨k, rfl⟩ : ∃ k, m = drop + 1 + k := ⟨m - (drop + 1), by omega⟩
  have hdivided : n / 10 ^ (drop + 1 + k) ≤ n / 10 ^ drop / 10 := by
    rw [Nat.div_div_eq_div_mul, ← Nat.pow_succ]
    exact Nat.div_le_div_left (Nat.pow_le_pow_right (by decide) (Nat.le_add_right _ _))
      (Nat.pow_pos (by decide))
  have hrounded := roundHalfEven_le n (10 ^ (drop + 1 + k))
  have hbound : 10 ≤ unitBound := by decide
  omega

theorem dropDigits?_eq_none_iff (h : n / 10 ^ drop < unitBound)
    (hleast : m < drop → unitBound ≤ n / 10 ^ m) :
    dropDigits? n m drop = none ↔ unitBound ≤ roundHalfEven n (10 ^ m) := by
  unfold dropDigits?
  rcases Nat.lt_trichotomy m drop with hlt | rfl | hlt
  · rw [if_pos hlt]
    exact iff_of_true rfl ((hleast hlt).trans (div_le_roundHalfEven _ _))
  · simp
  · have hroom := roundHalfEven_lt_unitBound h hlt
    have hne : m ≠ drop := by omega
    simp only [Nat.not_lt.2 hlt.le, if_false, hne]
    refine iff_of_false ?_ (Nat.not_le.2 hroom)
    split <;> exact Option.some_ne_none _

theorem dropDigits?_fits {t : Nat} (h : n / 10 ^ drop < unitBound) (hs : m - maxScale ≤ drop)
    (hfound : dropDigits? n m drop = some (u, t)) : u < unitBound ∧ t ≤ maxScale := by
  have hrounded : roundHalfEven n (10 ^ drop) ≤ unitBound :=
    (roundHalfEven_le n (10 ^ drop)).trans h
  unfold dropDigits? at hfound
  dsimp only at hfound
  split_ifs at hfound
  · obtain ⟨rfl, rfl⟩ := Prod.mk.inj (Option.some.inj hfound)
    exact ⟨by assumption, by omega⟩
  · obtain ⟨rfl, rfl⟩ := Prod.mk.inj (Option.some.inj hfound)
    have hten := roundHalfEven_le (roundHalfEven n (10 ^ drop)) 10
    have hbound : 100 ≤ unitBound := by decide
    refine ⟨?_, by omega⟩
    change roundHalfEven (roundHalfEven n (10 ^ drop)) 10 < unitBound
    omega

/-- **A product is out of range** iff, rounded to a whole number, it has more than 96 bits. -/
theorem mul?_eq_none_iff (ha : a.Fits) (hb : b.Fits) : a.mul? b = none ↔
    unitBound ≤ roundHalfEven (a.units * b.units) (10 ^ (a.scale + b.scale)) := by
  obtain ⟨-, hfits, hleast⟩ :=
    fittingDrop_spec (product_div_lt ha hb (a.scale + b.scale - maxScale))
  unfold mul?
  split
  · rename_i hzero
    have hproduct : a.units * b.units = 0 := Nat.mul_eq_zero.2 hzero
    rw [hproduct, roundHalfEven_of_dvd (Nat.zero_mod _), Nat.zero_div]
    exact iff_of_false (Option.some_ne_none _) (by decide)
  · rw [Option.map_eq_none_iff, fit?, dropDigits?_eq_none_iff hfits]
    exact hleast _ (Nat.sub_le _ _)

/-- A product that is in range fits. -/
theorem mul?_fits (ha : a.Fits) (hb : b.Fits) (h : a.mul? b = some d) : d.Fits := by
  obtain ⟨hle, hfits, -⟩ := fittingDrop_spec (product_div_lt ha hb (a.scale + b.scale - maxScale))
  unfold mul? at h
  split at h
  · obtain rfl := Option.some.inj h
    exact fits_zero
  · obtain ⟨⟨u, t⟩, hfound, rfl⟩ := Option.map_eq_some_iff.1 h
    have hrange := dropDigits?_fits hfits hle hfound
    exact ⟨hrange.1, hrange.2⟩

/-! ## As a float -/

/-- **A decimal that fits is a finite float.** -/
theorem isFinite_toFloat (h : d.Fits) : isFinite d.toFloat = true := by
  have hunits : d.units < 2 ^ 96 := h.units
  obtain ⟨p, hp⟩ : ∃ p, p = Nat.pow 10 d.scale := ⟨_, rfl⟩
  have hne : p ≠ 0 := hp ▸ (Nat.pow_pos (by decide)).ne'
  have hpower : p < 2 ^ 94 :=
    hp ▸ (Nat.pow_le_pow_right (by decide) h.scale).trans_lt (by decide)
  have hlog : p.log2 < 94 := (Nat.log2_lt hne).2 hpower
  obtain ⟨s, m, e, hm, hunpack, hone⟩ := exists_unpack_ofNat hne (by omega)
  have hwhole : IsBelow 97 (Float.ofNat (d.units / p)) :=
    isBelow_ofNat (k := 96) ((Nat.div_le_self _ _).trans_lt hunits) (by decide)
  have hscale : IsBelow 95 (Float.ofNat p) := isBelow_ofNat (k := 94) hpower (by decide)
  have hrest : IsBelow 95 (Float.ofNat (d.units % p)) :=
    isBelow_ofNat (k := 94) ((Nat.mod_lt _ (Nat.pos_of_ne_zero hne)).trans hpower) (by decide)
  have hpart : IsBelow 97 (Float.ofNat (d.units % p) / Float.ofNat p) :=
    (hrest.div hunpack hone (by decide) (by decide)).mono (by decide)
  have hscaled : IsBelow 195
      ((Float.ofNat (d.units / p) + Float.ofNat (d.units % p) / Float.ofNat p) * Float.ofNat p) :=
    (hwhole.add hpart (by decide) (by decide)).mul hscale (by decide) (by decide)
  have hmagnitude (c : Bool) : IsBelow 196 (if c then Float.ofNat (d.units / p) else roundHalfAway
      ((Float.ofNat (d.units / p) + Float.ofNat (d.units % p) / Float.ofNat p) * Float.ofNat p) /
        Float.ofNat p) := by
    cases c with
    | true => exact hwhole.mono (by decide)
    | false => exact (hscaled.roundHalfAway (by decide)).div hunpack hone (by decide) (by decide)
  unfold toFloat
  rw [← hp]
  dsimp only
  split
  · exact (hmagnitude _).neg.isFinite
  · exact (hmagnitude _).isFinite

/-! ## From a float -/

theorem shorten_lt (hm : m < unitBound) : shorten m < unitBound := by
  have hbound : 10 ≤ unitBound := by decide
  unfold shorten
  split <;> omega

theorem limitPlaces_fits {e : Int} {k : Nat} (hm : m < unitBound) (he : e ≤ 0)
    (hfuel : -28 ≤ e + k) :
    (limitPlaces k m e).1 < unitBound ∧ (limitPlaces k m e).2.natAbs ≤ 28 := by
  induction k generalizing m e with
  | zero => exact ⟨hm, by unfold limitPlaces; dsimp only; omega⟩
  | succ k ih =>
    unfold limitPlaces
    split
    · split
      · exact ⟨by decide, by decide⟩
      · exact ih (shorten_lt hm) (by omega) (by omega)
    · exact ⟨hm, by dsimp only; omega⟩

theorem limitDigits_fits {places : Nat} (k : Nat) (hm : m < unitBound)
    (hplaces : places ≤ maxScale) :
    (limitDigits k m places).1 < unitBound ∧ (limitDigits k m places).2 ≤ maxScale := by
  induction k generalizing m places with
  | zero => exact ⟨hm, hplaces⟩
  | succ k ih =>
    unfold limitDigits
    split
    · exact ih (shorten_lt hm) ((Nat.sub_le _ _).trans hplaces)
    · exact ⟨hm, hplaces⟩

theorem stripZeros_fits {places : Nat} (hm : m < unitBound) (hplaces : places ≤ maxScale) :
    (stripZeros m places).1 < unitBound ∧ (stripZeros m places).2 ≤ maxScale := by
  induction places generalizing m with
  | zero => exact ⟨hm, hplaces⟩
  | succ places ih =>
    unfold stripZeros
    split
    · exact ih ((Nat.div_le_self _ _).trans_lt hm) (Nat.le_of_succ_le hplaces)
    · exact ⟨hm, hplaces⟩

/-- A decimal made from a float fits. -/
theorem ofFloat?_fits {x : Float} (h : ofFloat? x = some d) : d.Fits := by
  unfold ofFloat? at h
  dsimp only at h
  split at h
  · cases h
  · split at h
    · obtain rfl := Option.some.inj h
      exact ⟨fits_zero.units, fits_zero.scale⟩
    · generalize (if (Binary.ofFloat x).exponent ≤ 0 then _ else _ : Nat × Int) = absorbed at h
      generalize (if absorbed.2 ≤ 0 then absorbed.1 else _ : Nat) = scaled at h
      split at h
      · cases h
      · rename_i hscaled
        obtain rfl := Option.some.inj h
        have hplaces : (limitPlaces absorbed.2.natAbs scaled
            (if absorbed.2 ≤ 0 then absorbed.2 else 0)).1 < unitBound ∧ _ :=
          limitPlaces_fits (Nat.not_le.1 hscaled) (by split <;> omega) (by split <;> omega)
        have hdigits := limitDigits_fits 40 hplaces.1 hplaces.2
        have hstripped := stripZeros_fits hdigits.1 hdigits.2
        exact ⟨hstripped.1, hstripped.2⟩

end PolicyFields.Number.Decimal
