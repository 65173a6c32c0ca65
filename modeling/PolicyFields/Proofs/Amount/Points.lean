import PolicyFields.Proofs.Amount.Currency

/-!
# Amounts without their points

In the Turkish convention a point groups thousands, so that it may be left out.

* `bareDigits` — what is left of a text without blanks around it, currency and points.
* `stripCurrencyChars_digits` — currency is recognized without its points, too.
* `parse?_withoutPoints` — **an amount may lose its points**, wherever they stand.
-/

namespace PolicyFields.Amount

open Number (Decimal)
open Text (AllBlank trimChars)

variable {ds blanks ending : List Char} {s : String}

/-! ## Currency behind digits -/

/-- The endings that are left of a currency without its points. -/
def pointlessSuffixes : List (List Char) :=
  [['-', 'T', 'L'], [' ', 'T', 'L'], ['T', 'L'], ['-']]

theorem filter_currencySuffix (h : ending ∈ currencySuffixes) :
    ending.filter (· != '.') ∈ pointlessSuffixes := by
  have hall : (currencySuffixes.all fun e => (e.filter (· != '.')) ∈ pointlessSuffixes) = true := by
    decide
  exact of_decide_eq_true (List.all_eq_true.1 hall ending h)

theorem pointlessSuffixes_subset (h : ending ∈ pointlessSuffixes) : ending ∈ currencySuffixes :=
  (by decide : ∀ e ∈ pointlessSuffixes, e ∈ currencySuffixes) ending h

/-- **Currency without its points is taken off as well.** -/
theorem stripCurrencyChars_digits (hds : IsNumeral ds) (hblanks : AllBlank blanks)
    (hending : ending ∈ pointlessSuffixes) : stripCurrencyChars (ds ++ blanks ++ ending) = ds :=
  stripCurrencyChars_append hds.betweenDigits.trimmed hds.betweenDigits.2 hblanks
    (pointlessSuffixes_subset hending)

/-! ## Points -/

/-- `s` without its points. -/
def withoutPoints (s : String) : String := String.ofList (s.toList.filter (· != '.'))

/-- What is left of `s` without blanks around it, currency and points. -/
def bareDigits (s : String) : List Char :=
  turkish.ungrouped (stripCurrencyChars (trimChars s.toList))

theorem filter_blanks (h : AllBlank blanks) : blanks.filter (· != '.') = blanks := by
  refine List.filter_eq_self.2 fun c hc => bne_iff_ne.2 ?_
  rintro rfl
  exact absurd (h '.' hc) (by decide)

/-- Blanks and currency may be taken off after the points, where digits are left. -/
theorem stripCurrencyChars_withoutPoints (h : IsNumeral (bareDigits s)) :
    stripCurrencyChars (trimChars (withoutPoints s).toList) = bareDigits s := by
  obtain ⟨b, b', hb, hb', hs⟩ := Text.exists_blanks s.toList
  have hpoints : (withoutPoints s).toList =
      b ++ (trimChars s.toList).filter (· != '.') ++ b' := by
    rw [withoutPoints, String.toList_ofList]
    conv_lhs => rw [hs]
    rw [List.filter_append, List.filter_append, filter_blanks hb, filter_blanks hb']
  rw [hpoints]
  set text := trimChars s.toList with htext
  have hself : trimChars text = text := Text.trimChars_trimChars _
  cases hending : currencySuffixes.findSome? fun e => dropEnding? e text with
  | none =>
    -- Without a currency the digits reach to the end, so that no currency comes up.
    have hbare : bareDigits s = text.filter (· != '.') := by
      rw [bareDigits, stripCurrencyChars, ← htext, hself, hending]
      rfl
    rw [← hbare, Text.trimChars_append hb h.betweenDigits.trimmed hb',
      stripCurrencyChars_eq_self h.betweenDigits.trimmed h.betweenDigits.2]
  | some amount =>
    -- What is left of the currency counts as one again.
    have hbare : bareDigits s = (trimChars amount).filter (· != '.') := by
      rw [bareDigits, stripCurrencyChars, ← htext, hself, hending]
      rfl
    obtain ⟨ending, hmem, hdrop⟩ := List.exists_of_findSome?_eq_some hending
    obtain ⟨a, a', ha, ha', hamount⟩ := Text.exists_blanks amount
    have hsplit : b ++ text.filter (· != '.') ++ b' =
        (b ++ a) ++ (bareDigits s ++ a' ++ ending.filter (· != '.')) ++ b' := by
      rw [exists_of_dropEnding? hdrop, hamount, hbare]
      simp only [List.filter_append, filter_blanks ha, filter_blanks ha', List.append_assoc]
    have hfirst : AllBlank (b ++ a) := fun c hc => (List.mem_append.1 hc).elim (hb c) (ha c)
    have hpointless := filter_currencySuffix hmem
    have htrimmed := trimmed_before_ending h.betweenDigits.trimmed a'
      (pointlessSuffixes_subset hpointless)
    rw [hsplit, Text.trimChars_append hfirst htrimmed hb',
      stripCurrencyChars_digits h ha' hpointless]

/-- Without a comma a Turkish amount is a numeral between its points. -/
theorem parse?_turkish (hcomma : ',' ∉ s.toList) : parse? .turkish s =
    if isDigits (bareDigits s) then Decimal.ofDigits? (bareDigits s) [] else none := by
  have hsub : (stripCurrencyChars (trimChars s.toList)).Sublist s.toList :=
    (stripCurrencyChars_sublist _).trans (Text.trimChars_sublist _)
  have hparts : Parts turkish.decimal (stripCurrencyChars (trimChars s.toList)) _ none :=
    .whole fun hmem => hcomma (hsub.subset hmem)
  have hnumber : IsNumber turkish (stripCurrencyChars (trimChars s.toList)) none ↔
      IsNumeral (bareDigits s) := and_iff_left fun _ h => by cases h
  have hread (hpresent : isMissing s = false) :
      parse? .turkish s = parseWith? turkish (stripCurrencyChars (trimChars s.toList)) := by
    rw [parse?_eq _ hpresent, toList_stripCurrency_trim, Style.separators]
  by_cases hdigits : IsNumeral (bareDigits s)
  · obtain ⟨d, hmem⟩ := List.exists_mem_of_ne_nil _ hdigits.1
    have htext : d ∈ trimChars s.toList :=
      (stripCurrencyChars_sublist _).subset (List.mem_of_mem_filter hmem)
    rw [hread (isMissing_of_digit (hdigits.2 d hmem) htext), if_pos (isDigits_iff.2 hdigits),
      parseWith?_eq_ofDigits? hparts (hnumber.2 hdigits), Option.getD_none, bareDigits]
  · rw [if_neg fun h => hdigits (isDigits_iff.1 h)]
    cases hmissing : isMissing s with
    | true => rw [parse?, if_pos hmissing]
    | false => rw [hread hmissing, parseWith?_eq_none hparts fun h => hdigits (hnumber.1 h)]

/-- **A Turkish amount may lose its points**, wherever they stand. -/
theorem parse?_withoutPoints (hcomma : ',' ∉ s.toList) (h : IsNumeral (bareDigits s)) :
    parse? .turkish (withoutPoints s) = parse? .turkish s := by
  have hcomma' : ',' ∉ (withoutPoints s).toList := by
    rw [withoutPoints, String.toList_ofList]
    exact fun hmem => hcomma (List.mem_of_mem_filter hmem)
  have hbare : bareDigits (withoutPoints s) = bareDigits s := by
    rw [bareDigits, stripCurrencyChars_withoutPoints h]
    exact h.filter_eq_self rfl
  rw [parse?_turkish hcomma, parse?_turkish hcomma', hbare]

end PolicyFields.Amount
