import PolicyFields.Proofs.Amount.Grammar

/-!
# The digits of an amount

* `HasDigits` — the digits that a style finds in a text before the decimal point and behind it.
* `exists_hasDigits` — **whatever is accepted as an amount has such digits**, and `parse?_eq`: they
  are all that is read.
* `HasDigits.parse?_eq_written` — up to 28 digits are accepted, with their value.
-/

namespace PolicyFields.Amount

open Number (Decimal AllDigits)

variable {style : Style} {s : String} {whole fraction : List Char} {d : Decimal}

/-- In the convention that `style` takes for `s`, the digits `whole` stand before the decimal point
and the digits `fraction` behind it, or there is no point and `fraction` is empty. -/
def HasDigits (style : Style) (s : String) (whole fraction : List Char) : Prop :=
  ∃ before behind,
    let bare := (stripCurrency (Text.trim s)).toList
    let seps := style.separators bare
    Parts seps.decimal bare before behind ∧ IsNumber seps before behind ∧
      whole = seps.ungrouped before ∧ fraction = behind.getD []

/-- **What is accepted has digits** of this kind. -/
theorem exists_hasDigits (h : parse? style s = some d) :
    ∃ whole fraction, HasDigits style s whole fraction := by
  obtain ⟨before, behind, hparts⟩ :=
    exists_parts (style.separators (stripCurrency (Text.trim s)).toList).decimal
      (stripCurrency (Text.trim s)).toList
  have hpresent : isMissing s = false := by
    by_contra hmissing
    rw [parse?, if_pos (Bool.not_eq_false _ ▸ hmissing)] at h
    cases h
  refine ⟨_, _, before, behind, hparts, ?_, rfl, rfl⟩
  by_contra hnumber
  rw [parse?_eq style hpresent, parseWith?_eq_none hparts hnumber] at h
  cases h

namespace HasDigits

/-- The digits around a decimal point, in the convention that the style takes. -/
theorem of_divided (seps : Separators) (before : List Char)
    (hseps : style.separators (stripCurrency (Text.trim s)).toList = seps)
    (hbare : (stripCurrency (Text.trim s)).toList = before ++ seps.decimal :: fraction)
    (hungrouped : seps.ungrouped before = whole) (hlast : seps.decimal ∉ fraction)
    (hwhole : isDigits whole = true) (hfraction : isDigits fraction = true) :
    HasDigits style s whole fraction := by
  have hparts : Parts seps.decimal (stripCurrency (Text.trim s)).toList before (some fraction) := by
    rw [hbare]
    exact .divided before hlast
  have hnumber : IsNumber seps before (some fraction) := by
    refine ⟨hungrouped.symm ▸ isDigits_iff.1 hwhole, ?_⟩
    rintro _ ⟨⟩
    exact isDigits_iff.1 hfraction
  unfold HasDigits
  dsimp only
  rw [hseps]
  exact ⟨before, some fraction, hparts, hnumber, hungrouped.symm, rfl⟩

theorem allDigits_fraction (h : HasDigits style s whole fraction) : AllDigits fraction := by
  obtain ⟨before, behind, -, hnumber, -, rfl⟩ := h
  exact hnumber.allDigits_fraction

theorem parse?_eq (h : HasDigits style s whole fraction) :
    parse? style s = Decimal.ofDigits? whole fraction := by
  obtain ⟨before, behind, hparts, hnumber, rfl, rfl⟩ := h
  rw [Amount.parse?_eq style (hparts.not_missing hnumber), parseWith?_eq_ofDigits? hparts hnumber]

/-- **Up to 28 digits are read exactly.** -/
theorem parse?_eq_written (h : HasDigits style s whole fraction)
    (hlength : whole.length + fraction.length ≤ 28) :
    parse? style s = some (.written whole fraction) := by
  obtain ⟨before, behind, hparts, hnumber, rfl, rfl⟩ := h
  rw [Amount.parse?_eq style (hparts.not_missing hnumber),
    parseWith?_eq_written hparts hnumber hlength]

end HasDigits

/-- Whatever is read as an amount is a decimal made from digits. -/
theorem exists_ofDigits?_of_parse? (h : parse? style s = some d) :
    ∃ whole fraction, Decimal.ofDigits? whole fraction = some d := by
  obtain ⟨whole, fraction, hdigits⟩ := exists_hasDigits h
  exact ⟨whole, fraction, hdigits.parse?_eq ▸ h⟩

end PolicyFields.Amount
