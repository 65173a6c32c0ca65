import PolicyFields.Proofs.Amount.Digits
import PolicyFields.Proofs.Mapping.Failures
import PolicyFields.Proofs.Mapping.Integers
import PolicyFields.Proofs.Number.WholePart

/-!
# Amounts as whole numbers

The places of an amount are cut off, before it is multiplied and when it becomes a whole number.
What is left is exact, or it is reported to be out of range.

* `apply_cut` — **an amount becomes its digits before the point**, whatever stands behind it.
* `GivesWhole` — a whole number as a result, if it has 64 bits.
* `scaled_whole` — the amount of a rule times a whole factor.
* `apply_multiplied` — **a rule gives the whole part of its amount times its factor**.
-/

namespace PolicyFields.Amount

open Number (Decimal)

/-- The whole part of an amount is its value rounded down: it has no sign. -/
theorem toInt_of_parse? {style : Style} {s : String} {d : Decimal} (h : parse? style s = some d) :
    d.toInt = ⌊d.value⌋ := by
  obtain ⟨whole, fraction, hdigits⟩ := exists_ofDigits?_of_parse? h
  exact Decimal.toInt_eq_floor (Decimal.negative_of_ofDigits? hdigits)

end PolicyFields.Amount

namespace PolicyFields.Mapping

open Amount (HasDigits)
open Json (Value)
open Number (Decimal)
open Traversal (bind_eq_ok_iff)

variable {cfg : NumericRules} {v : Value} {r : NumericRule} {x : Decimal} {k n : Int}

/-! ## Amounts -/

/-- **An amount becomes its digits before the point**, if their number has 63 bits, and else it is
out of range: nothing is rounded. What is accepted as an amount has such digits, and up to 28 of
them are accepted. -/
theorem apply_cut (hkind : cfg.kind = .integer) {s : String}
    (hrules : ∀ r ∈ cfg.rules, Text.trim r.pattern ≠ Text.trim s) :
    let style := Amount.Style.ofFlag cfg.turkish
    (∀ d, Amount.parse? style s = some d →
      ∃ whole fraction, HasDigits style s whole fraction) ∧
    ∀ whole fraction, HasDigits style s whole fraction →
      whole.length + fraction.length ≤ 28 →
        Amount.parse? style s = some (.written whole fraction) ∧
        cfg.apply (.string s) =
          if Nat.ofDigitChars 10 whole 0 ≤ 2 ^ 63 - 1 then
            .ok (.nat (Nat.ofDigitChars 10 whole 0))
          else .error (.overflow (Decimal.written whole fraction).text) := by
  intro style
  refine ⟨fun d hd => Amount.exists_hasDigits hd, fun whole fraction hdigits hlength => ?_⟩
  have hparse := hdigits.parse?_eq_written hlength
  have hrange : fitsInt64 (Nat.ofDigitChars 10 whole 0) = true ↔
      Nat.ofDigitChars 10 whole 0 ≤ 2 ^ 63 - 1 := by
    rw [fitsInt64_iff]
    omega
  refine ⟨hparse, ?_⟩
  rw [NumericRules.apply_unruled_amount (Amount.isFalsy_of_parse? hparse)
    (fun _ => Value.noConfusion) (NumericRules.rule?_eq_none_iff.2 hrules) hparse, hkind,
    decimalValue, Decimal.toInt_written hdigits.allDigits_fraction]
  exact if_congr hrange rfl rfl

/-- The greatest number of 64 bits with places, and the next, with a rule beside it. -/
theorem apply_cut_two :
    let cfg : NumericRules := ⟨[⟨"SINIRSIZ", .int (-1), .one⟩], .integer, none, none⟩
    cfg.apply (.string "9.223.372.036.854.775.807,99") = .ok (.int 9223372036854775807) ∧
      cfg.apply (.string "9,223,372,036,854,775,808.00 TL") =
        .error (.overflow "9223372036854775808.00") := by
  intro cfg
  have hbelow : HasDigits .auto "9.223.372.036.854.775.807,99" "9223372036854775807".toList
      "99".toList :=
    .of_divided Amount.turkish "9.223.372.036.854.775.807".toList (by decide) (by decide)
      (by decide) (by decide) (by decide) (by decide)
  have habove : HasDigits .auto "9,223,372,036,854,775,808.00 TL" "9223372036854775808".toList
      "00".toList :=
    .of_divided Amount.english "9,223,372,036,854,775,808".toList (by decide) (by decide)
      (by decide) (by decide) (by decide) (by decide)
  have hok := ((@apply_cut cfg rfl "9.223.372.036.854.775.807,99" (by decide)).2 _ _ hbelow
    (by decide)).2
  have herror := ((@apply_cut cfg rfl "9,223,372,036,854,775,808.00 TL" (by decide)).2 _ _ habove
    (by decide)).2
  exact ⟨hok.trans (if_pos (by decide)), herror.trans ((if_neg (by decide)).trans (by cbv))⟩

/-! ## Factors -/

/-- The result is the whole number `n` if that has 64 bits, and else that a number is out of
range. -/
def GivesWhole (result : Except MappingError Value) (n : Int) : Prop :=
  if fitsInt64 n then result = .ok (.int n) else ∃ number, result = .error (.overflow number)

/-- The configured factor is `k`: a whole number of 64 bits, signed or unsigned, or none for one. -/
inductive WholeFactor : Option Json.Number → Int → Prop
  | absent : WholeFactor none 1
  | whole {k : Int} : -2 ^ 63 ≤ k → k < 2 ^ 64 → WholeFactor (some (.int k)) k

theorem givesWhole_decimalValue (hd : x.toInt = n) : GivesWhole (decimalValue .integer x) n := by
  subst hd
  unfold GivesWhole decimalValue
  split
  · rfl
  · exact ⟨_, rfl⟩

/-- Two results of one whole number are the same value, or both are out of range. -/
theorem GivesWhole.agree {result result' : Except MappingError Value} (h : GivesWhole result n)
    (h' : GivesWhole result' n) : (∃ w, result = .ok w ∧ result' = .ok w) ∨
      ∃ s t, result = .error (.overflow s) ∧ result' = .error (.overflow t) := by
  unfold GivesWhole at h h'
  split at h
  · rw [if_pos ‹_›] at h'
    exact .inl ⟨_, h, h'⟩
  · rw [if_neg ‹_›] at h'
    obtain ⟨s, hs⟩ := h
    obtain ⟨t, ht⟩ := h'
    exact .inr ⟨s, t, hs, ht⟩

theorem WholeFactor.natAbs_lt {factor : Option Json.Number} (h : WholeFactor factor k) :
    k.natAbs < Decimal.unitBound := by
  cases h with
  | absent => decide
  | whole hlow hhigh =>
    unfold Decimal.unitBound
    omega

/-- A rule that is read with such a factor has it as its multiplier. -/
theorem multiplier_of_check {field : String} {parts : NumericRuleParts}
    (hcheck : checkNumericRule field parts = .ok r) (hk : WholeFactor parts.multiplier k) :
    r.multiplier = .ofInt k := by
  obtain ⟨d, hd, hr⟩ := bind_eq_ok_iff.1 hcheck
  obtain rfl := Except.ok.inj hr
  have hfactor : multiplierOf field parts.multiplier = .ok (.ofInt k) := by
    generalize parts.multiplier = factor at hk
    cases hk with
    | absent => rfl
    | whole _ _ => rfl
  exact Except.ok.inj (hd.symm.trans hfactor)

namespace NumericRules

/-- **The amount of a rule, cut off and multiplied by a whole factor**: a product that has too many
bits for a decimal has too many for a whole number, too. -/
theorem scaled_whole (hkind : cfg.kind = .integer) (hx : x.Fits) (hr : r.multiplier = .ofInt k)
    (hk : k.natAbs < Decimal.unitBound) : GivesWhole (cfg.scaled r x) (x.toInt * k) := by
  have hunits : (x.toInt * k).natAbs = x.truncate.units * (Decimal.ofInt k).units := by
    rw [Int.natAbs_mul, Decimal.natAbs_toInt]
    rfl
  unfold scaled
  dsimp only
  rw [hkind, hr]
  dsimp only
  by_cases hproduct : x.truncate.units * (Decimal.ofInt k).units < Decimal.unitBound
  · obtain ⟨p, hp, hvalue⟩ := Decimal.mul?_whole rfl rfl hproduct
    rw [hp]
    exact givesWhole_decimalValue (by rw [hvalue, Decimal.toInt_truncate, Decimal.toInt_ofInt])
  · have hlarge := Nat.not_lt.1 hproduct
    have hrange : ¬ fitsInt64 (x.toInt * k) = true := by
      rw [← hunits] at hlarge
      unfold Decimal.unitBound at hlarge
      rw [fitsInt64_iff]
      omega
    rw [Decimal.mul?_whole_eq_none hx.truncate (Decimal.fits_ofInt hk) rfl rfl hlarge, GivesWhole,
      if_neg hrange]
    exact ⟨_, rfl⟩

/-- With the Turkish convention a rule whose output is no number gives its own amount. -/
theorem ruleOutcome_eq_scaled (houtput : ∀ n, r.output ≠ .number n)
    (hturkish : cfg.turkish = some true) (hx : Amount.parse? .turkish r.pattern = some x) :
    cfg.ruleOutcome r = cfg.scaled r x := by
  unfold ruleOutcome
  split
  · exact absurd ‹_› (houtput _)
  · rw [if_pos hturkish, hx]

end NumericRules

/-- **A rule gives the whole part of its amount times its factor**, exactly, if the product has 64
bits, and else reports a number out of range. With the factor one its text has the same outcome
where no rule has it. -/
theorem apply_multiplied (hturkish : cfg.turkish = some true) (hkind : cfg.kind = .integer)
    (hv : v.isFalsy = false) (hitems : ∀ items, v ≠ .array items)
    (hfirst : cfg.FirstRule (Text.trim v.plain) r) (houtput : ∀ n, r.output ≠ .number n)
    (hx : Amount.parse? .turkish r.pattern = some x) {field : String} {parts : NumericRuleParts}
    (hcheck : checkNumericRule field parts = .ok r) (hk : WholeFactor parts.multiplier k) :
    GivesWhole (cfg.apply v) (⌊x.value⌋ * k) ∧
      (k = 1 → ∀ rules, (∀ q ∈ rules, Text.trim q.pattern ≠ Text.trim v.plain) →
        (∃ w, cfg.apply v = .ok w ∧ { cfg with rules := rules }.apply v = .ok w) ∨
          ∃ s t, cfg.apply v = .error (.overflow s) ∧
            { cfg with rules := rules }.apply v = .error (.overflow t)) := by
  have hruled : GivesWhole (cfg.apply v) (⌊x.value⌋ * k) := by
    rw [NumericRules.apply_ruled hv hitems (NumericRules.rule?_eq_some_iff.2 hfirst),
      NumericRules.ruleOutcome_eq_scaled houtput hturkish hx, ← Amount.toInt_of_parse? hx]
    exact NumericRules.scaled_whole hkind (Amount.parse?_fits hx) (multiplier_of_check hcheck hk)
      hk.natAbs_lt
  refine ⟨hruled, ?_⟩
  rintro rfl rules hnone
  have hparse : Amount.parse? (.ofFlag cfg.turkish) v.plain = some x := by
    rw [hturkish, ← Amount.parse?_trim, ← hfirst.1, Amount.parse?_trim]
    exact hx
  refine hruled.agree ?_
  rw [@NumericRules.apply_unruled_amount { cfg with rules := rules } v hv hitems
    (NumericRules.rule?_eq_none_iff.2 hnone) x hparse, Int.mul_one]
  dsimp only
  rw [hkind]
  exact givesWhole_decimalValue (Amount.toInt_of_parse? hx)

/-- A negative factor, a product that is out of range, and a rule that changes nothing. -/
theorem apply_multiplied_three :
    let rule (k : Int) : NumericRule := ⟨"1.000,50", .string "bin", .ofInt k⟩
    let cfg (k : Int) : NumericRules := ⟨[rule k], .integer, some true, none⟩
    let v : Value := .string " 1.000,50 "
    (cfg (-3)).apply v = .ok (.int (-3000)) ∧
      (∃ number, (cfg 10000000000000000).apply v = .error (.overflow number)) ∧
      ∃ w, (cfg 1).apply v = .ok w ∧
        (NumericRules.mk [] .integer (some true) none).apply v = .ok w := by
  intro rule cfg v
  have hx : Amount.parse? .turkish "1.000,50" = some ⟨false, 100050, 2⟩ := by decide
  have htrim : Text.trim "1.000,50" = Text.trim v.plain := by decide
  have hfloor : ⌊(Decimal.mk false 100050 2).value⌋ = 1000 := by
    rw [← Amount.toInt_of_parse? hx]
    decide
  have hmultiplied (k : Int) (hlow : -2 ^ 63 ≤ k) (hhigh : k < 2 ^ 64) :=
    @apply_multiplied (cfg k) v (rule k) ⟨false, 100050, 2⟩ k rfl rfl rfl
      (fun _ => Value.noConfusion) ⟨htrim, [], [], rfl, by simp⟩ (fun _ => Value.noConfusion) hx
      "Limit" ⟨.string "1.000,50", .string "bin", some (.int k)⟩ rfl (.whole hlow hhigh)
  rw [hfloor] at hmultiplied
  have hnegative := (hmultiplied (-3) (by decide) (by decide)).1
  rw [GivesWhole, if_pos (by decide)] at hnegative
  have hlarge := (hmultiplied 10000000000000000 (by decide) (by decide)).1
  rw [GivesWhole, if_neg (by decide)] at hlarge
  obtain ⟨hone, hsame⟩ := hmultiplied 1 (by decide) (by decide)
  rw [GivesWhole, if_pos (by decide)] at hone
  refine ⟨hnegative, hlarge, ?_⟩
  obtain h | ⟨s, t, hs, -⟩ := hsame rfl [] (by simp)
  · exact h
  · cases hone.symm.trans hs

end PolicyFields.Mapping
