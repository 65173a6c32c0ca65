import PolicyFields.Mapping.Apply
import PolicyFields.Proofs.Amount.Grouped
import PolicyFields.Proofs.Number.Whole

/-!
# Whole numbers that are converted

A text of digits is read as an amount, which is exact. A minus makes it no amount in any convention,
and it is read as a float, which has 53 bits.

* `parse?_toDigits`, `parse?_minus` — the two kinds of texts as amounts.
* `apply_amount`, `apply_float` — without rules a text is converted as an amount or else as a float.
* `apply_toDigits`, `apply_minus` — what becomes of the two kinds.
* `apply_plain_int` — **which whole numbers are converted exactly**: all but the negative ones that
  need more than 53 bits.
-/

namespace PolicyFields.Amount

open Number (Decimal AllDigits)

variable {ds : List Char}

/-- A convention uses points and commas. -/
theorem separators_eq (style : Style) (cs : List Char) :
    style.separators cs = turkish ∨ style.separators cs = english := by
  cases style with
  | turkish => exact .inl rfl
  | english => exact .inr rfl
  | auto =>
    change detect cs = turkish ∨ detect cs = english
    unfold detect
    split
    · split
      · exact .inr rfl
      · exact .inl rfl
    · split
      · exact .inr rfl
      · exact .inl rfl
    · exact .inr rfl

/-- **Digits are an amount** in every convention. -/
theorem parse?_toDigits (style : Style) {n : Nat} (hn : n < Decimal.unitBound) :
    parse? style (String.ofList (Nat.toDigits 10 n)) = some ⟨false, n, 0⟩ := by
  have hdigits := isNumeral_toDigits n
  have hread (seps : Separators) (hseps : seps.Proper) :
      parseWith? seps (Nat.toDigits 10 n) = some ⟨false, n, 0⟩ := by
    have hungrouped : seps.ungrouped (Nat.toDigits 10 n) = Nat.toDigits 10 n :=
      hdigits.filter_eq_self hseps.thousands
    have hnumber : IsNumber seps (Nat.toDigits 10 n) none :=
      ⟨hungrouped.symm ▸ hdigits, fun _ h => by cases h⟩
    rw [parseWith?_eq_ofDigits? (.whole (hdigits.not_mem hseps.decimal)) hnumber, hungrouped,
      Option.getD_none, Decimal.ofDigits?_nil, Nat.ofDigitChars_ten_toDigits, if_pos hn]
  rw [hdigits.betweenDigits.parse?_eq style]
  rcases separators_eq style (Nat.toDigits 10 n) with hstyle | hstyle
  · rw [hstyle, hread _ turkish_proper]
  · rw [hstyle, hread _ english_proper]

/-- Neither a minus nor a digit is a blank. -/
theorem IsNumeral.minus_ends (h : IsNumeral ds) :
    (∀ c ∈ ('-' :: ds).head?, Text.isBlank c = false) ∧
      ∃ e ∈ ('-' :: ds).getLast?, e.isDigit = true := by
  obtain ⟨e, he, hdigit⟩ := h.betweenDigits.2
  refine ⟨fun c hc => ?_, e, ?_, hdigit⟩
  · obtain rfl := Option.some.inj hc
    decide
  · rw [List.getLast?_cons, Option.mem_def.1 he]
    rfl

/-- What is read as an amount holds something. -/
theorem isFalsy_of_parse? {style : Style} {s : String} {d : Decimal} (h : parse? style s = some d) :
    (Json.Value.string s).isFalsy = false := by
  refine String.isEmpty_eq_false_iff.2 ?_
  rintro rfl
  cases h

/-- **No amount begins with a minus.** -/
theorem parse?_minus (style : Style) (hds : IsNumeral ds) :
    parse? style (String.ofList ('-' :: ds)) = none := by
  have hread (seps : Separators) (hseps : seps.Proper) (hdecimal : seps.decimal ≠ '-')
      (hthousands : '-' ≠ seps.thousands) : parseWith? seps ('-' :: ds) = none := by
    have hpoint : seps.decimal ∉ '-' :: ds := by
      rw [List.mem_cons, not_or]
      exact ⟨hdecimal, hds.not_mem hseps.decimal⟩
    refine parseWith?_eq_none (.whole hpoint) fun hnumber => ?_
    have hminus : '-' ∈ seps.ungrouped ('-' :: ds) :=
      List.mem_filter.2 ⟨List.mem_cons_self, bne_iff_ne.2 hthousands⟩
    exact absurd (hnumber.1.2 '-' hminus) (by decide)
  rw [parse?_eq_self hds.minus_ends.1 hds.minus_ends.2 style]
  rcases separators_eq style ('-' :: ds) with hstyle | hstyle
  · rw [hstyle, hread _ turkish_proper (by decide) (by decide)]
  · rw [hstyle, hread _ english_proper (by decide) (by decide)]

end PolicyFields.Amount

namespace PolicyFields.Mapping

open Json (Value)
open Number (nearestWhole)

variable {cfg : NumericRules} {n : Nat}

namespace NumericRules

/-- What becomes of a text that is no amount. -/
def floatOutcome (cfg : NumericRules) (s : String) : Except MappingError Value :=
  ((Number.readFloat? (Text.trim s)).filter Number.isFinite).elim (.ok (cfg.default.getD .null))
    (floatValue cfg.kind)

theorem map_some_getD {ε α : Type} (x : Except ε α) (d : α) :
    ((x.map some).map fun out => out.getD d) = x := by
  cases x <;> rfl

/-- A value that holds something and is no list is converted, and the default stands in for
nothing. -/
theorem apply_scalar {v : Value} (hv : v.isFalsy = false) (hitems : ∀ items, v ≠ .array items) :
    cfg.apply v = (cfg.convert v).map fun out => out.getD (cfg.default.getD .null) := by
  unfold apply
  dsimp only
  rw [hv, if_neg Bool.false_ne_true]
  split
  · exact absurd rfl (hitems _)
  · rfl

/-- If a rule has its text, the rule decides. -/
theorem apply_ruled {v : Value} (hv : v.isFalsy = false) (hitems : ∀ items, v ≠ .array items)
    {r : NumericRule} (hrule : cfg.rule? v.plain = some r) : cfg.apply v = cfg.ruleOutcome r := by
  rw [apply_scalar hv hitems, convert, hv, if_neg Bool.false_ne_true, hrule]
  exact map_some_getD _ _

/-- Otherwise the text is read as a number. -/
theorem apply_unruled {v : Value} (hv : v.isFalsy = false) (hitems : ∀ items, v ≠ .array items)
    (hrule : cfg.rule? v.plain = none) : cfg.apply v =
      (cfg.readNumber v.plain).map fun out => out.getD (cfg.default.getD .null) := by
  rw [apply_scalar hv hitems, convert, hv, if_neg Bool.false_ne_true, hrule]

/-- An amount is converted as a decimal. -/
theorem apply_unruled_amount {v : Value} (hv : v.isFalsy = false)
    (hitems : ∀ items, v ≠ .array items) (hrule : cfg.rule? v.plain = none) {d : Number.Decimal}
    (hparse : Amount.parse? (.ofFlag cfg.turkish) v.plain = some d) :
    cfg.apply v = decimalValue cfg.kind d := by
  rw [apply_unruled hv hitems hrule, readNumber, Amount.parse?_trim, hparse]
  exact map_some_getD _ _

theorem rule?_of_nil (hrules : cfg.rules = []) (s : String) : cfg.rule? s = none := by
  rw [rule?, hrules]
  rfl

/-- Without rules a text is read as a number. -/
theorem apply_text (hrules : cfg.rules = []) (s : String) : cfg.apply (.string s) =
    (cfg.readNumber s).map fun out => out.getD (cfg.default.getD .null) := by
  by_cases hs : s.isEmpty
  · rw [String.isEmpty_iff.1 hs]
    rfl
  · exact apply_unruled (Bool.eq_false_of_not_eq_true hs) (fun _ => Value.noConfusion)
      (rule?_of_nil hrules s)

/-- An amount is converted as a decimal. -/
theorem apply_amount (hrules : cfg.rules = []) {s : String} {d : Number.Decimal}
    (hparse : Amount.parse? (.ofFlag cfg.turkish) s = some d) :
    cfg.apply (.string s) = decimalValue cfg.kind d :=
  apply_unruled_amount (Amount.isFalsy_of_parse? hparse) (fun _ => Value.noConfusion)
    (rule?_of_nil hrules s) hparse

/-- Anything else is converted as a float. -/
theorem apply_float (hrules : cfg.rules = []) {s : String}
    (hparse : Amount.parse? (.ofFlag cfg.turkish) s = none) :
    cfg.apply (.string s) = cfg.floatOutcome s := by
  rw [apply_text hrules, readNumber, Amount.parse?_trim, hparse, floatOutcome]
  cases Number.readFloat? (Text.trim s) with
  | none => rfl
  | some x =>
    cases hfinite : Number.isFinite x with
    | false => simp [Option.filter, hfinite, Except.map]
    | true =>
      simp only [Option.filter, hfinite, if_true, Option.elim_some]
      exact map_some_getD _ _

/-- Digits are converted exactly. -/
theorem apply_toDigits (hrules : cfg.rules = []) (hkind : cfg.kind = .integer)
    (hn : fitsInt64 n = true) :
    cfg.apply (.string (String.ofList (Nat.toDigits 10 n))) = .ok (.int n) := by
  have hbound : n < Number.Decimal.unitBound := by
    rw [fitsInt64_iff] at hn
    unfold Number.Decimal.unitBound
    omega
  rw [apply_amount hrules (Amount.parse?_toDigits _ hbound), hkind, decimalValue,
    Number.Decimal.toInt_whole]
  exact if_pos hn

/-- Digits behind a minus are rounded to 53 bits. -/
theorem apply_minus (hrules : cfg.rules = []) (hkind : cfg.kind = .integer) (hn : n ≠ 0)
    (hfits : fitsInt64 (-n) = true) :
    cfg.apply (.string (String.ofList ('-' :: Nat.toDigits 10 n))) =
      .ok (.int (-(nearestWhole n : Nat))) := by
  have hdigits := Amount.isNumeral_toDigits n
  have hbound : n ≤ 2 ^ 63 := by
    rw [fitsInt64_iff] at hfits
    omega
  have hlog : n.log2 ≤ 63 :=
    (Nat.pow_le_pow_iff_right (by decide)).1 ((Nat.log2_self_le hn).trans hbound)
  have htrim : Text.trim (String.ofList ('-' :: Nat.toDigits 10 n)) =
      String.ofList ('-' :: Nat.toDigits 10 n) := by
    rw [Text.trim, String.toList_ofList,
      Amount.trimChars_eq_self hdigits.minus_ends.1 hdigits.minus_ends.2]
  have hlength : (Nat.toDigits 10 n).length ≤ 20 :=
    (Nat.length_toDigits_le_iff (by decide) (by decide)).2 (hbound.trans_lt (by decide))
  have hread : Number.readFloat? (String.ofList ('-' :: Nat.toDigits 10 n)) =
      some (-Float.ofNat n) := by
    rw [Number.readFloat?_minus hdigits.1 hdigits.2, Nat.ofDigitChars_ten_toDigits,
      Number.ofDigits_whole hn (by omega)]
  have hfinite : Number.isFinite (-Float.ofNat n) = true :=
    (Number.isBelow_ofNat (k := 64) (hbound.trans_lt (by decide)) (by decide)).neg.isFinite
  have hwhole : Number.truncate (-Float.ofNat n) = -(nearestWhole n : Nat) :=
    Number.truncate_neg_ofNat hn (by omega)
  have hnearest : fitsInt64 (-(nearestWhole n : Nat)) = true := by
    have hle := Number.nearestWhole_le hbound
    rw [fitsInt64_iff]
    omega
  rw [apply_float hrules (Amount.parse?_minus _ hdigits), floatOutcome, htrim, hread]
  simp only [Option.filter, hfinite, if_true, Option.elim_some, floatValue, hkind, hwhole, hnearest]

end NumericRules

/-- **Which whole numbers are converted exactly.** A text of digits is, in every convention; with a
minus before them, the number is rounded to 53 bits, so that it stays as it is only if its bits
behind the leading 53 are zeros. -/
theorem apply_plain_int (hrules : cfg.rules = []) (hkind : cfg.kind = .integer) {i : Int}
    (hi : fitsInt64 i = true) :
    cfg.apply (.string (Value.int i).plain) =
        .ok (.int (if 0 ≤ i then i else -(nearestWhole i.natAbs : Nat))) ∧
      (cfg.apply (.string (Value.int i).plain) = .ok (.int i) ↔
        0 ≤ i ∨ 2 ^ (i.natAbs.log2 - 52) ∣ i.natAbs) := by
  have hplain : (Value.int i).plain = String.ofList (Json.intChars i) := by
    simp [Value.int, Value.plain, Value.compact, Value.compactChars, Json.Number.chars]
  have houtcome : cfg.apply (.string (Value.int i).plain) =
      .ok (.int (if 0 ≤ i then i else -(nearestWhole i.natAbs : Nat))) := by
    rw [hplain, Json.intChars]
    by_cases hsign : 0 ≤ i
    · have hself : (i.natAbs : Int) = i := Int.natAbs_of_nonneg hsign
      rw [if_neg (Int.not_lt.2 hsign), if_pos hsign]
      exact (NumericRules.apply_toDigits hrules hkind (hself.symm ▸ hi)).trans (by rw [hself])
    · have hneg : -(i.natAbs : Int) = i := by omega
      rw [if_pos (Int.not_le.1 hsign), if_neg hsign]
      exact NumericRules.apply_minus hrules hkind (by omega) (hneg.symm ▸ hi)
  refine ⟨houtcome, ?_⟩
  rw [houtcome, ← Number.nearestWhole_eq_iff]
  simp only [Value.int, Except.ok.injEq, Value.number.injEq, Json.Number.int.injEq]
  constructor
  · intro h
    split at h
    · exact .inl ‹_›
    · right
      omega
  · rintro (hsign | hnearest)
    · exact if_pos hsign
    · rw [hnearest]
      split
      · rfl
      · omega

/-- A negative number of 53 bits and a positive one of 63. -/
theorem apply_plain_int_two :
    let cfg : NumericRules := ⟨[], .integer, none, none⟩
    cfg.apply (.string "-9007199254740992") = .ok (.int (-9007199254740992)) ∧
      cfg.apply (.string "9223372036854775807") = .ok (.int 9223372036854775807) := by
  intro cfg
  have hneg := @apply_plain_int cfg rfl rfl (-9007199254740992) (by decide)
  have hpos := @apply_plain_int cfg rfl rfl 9223372036854775807 (by decide)
  exact ⟨hneg.2.2 (.inr (by decide)), hpos.2.2 (.inl (by decide))⟩

/-- A negative number of 54 bits loses its last. -/
theorem apply_plain_int_inexact :
    let cfg : NumericRules := ⟨[], .integer, none, none⟩
    let text := (Value.int (-9007199254740993)).plain
    fitsInt64 (-9007199254740993) = true ∧ text = "-9007199254740993" ∧
      cfg.apply (.string text) = .ok (.int (-9007199254740992)) ∧
      cfg.apply (.string text) ≠ .ok (.int (-9007199254740993)) := by
  intro cfg text
  have htext : text = "-9007199254740993" := by cbv
  have houtcome : cfg.apply (.string text) = .ok (.int (-9007199254740992)) := by
    rw [htext]
    exact NumericRules.apply_minus (n := 9007199254740993) rfl rfl (by decide) (by decide)
  refine ⟨by decide, htext, houtcome, fun h => ?_⟩
  have hsame := houtcome.symm.trans h
  simp [Value.int] at hsame

end PolicyFields.Mapping
