import PolicyFields.Amount
import PolicyFields.Proofs.Number.Decimal
import PolicyFields.Proofs.Text.Lower

/-!
# What is accepted as an amount

An amount is read in a convention, once its currency suffix is taken off: the last decimal point
divides it, and before the point the thousands separators are left out wherever they stand.

* `Parts` — the parts of a text before and behind the last of some separators.
* `IsNumber` — the parts that a convention accepts: one digit or more on either side of the point,
  or before it alone.
* `parseWith?_eq_ofDigits?`, `parseWith?_eq_none` — reading in a convention.
* `isMissing_of_digit` — **an amount with a digit in it never counts as missing**.
* `parse?_reads` — **an amount is accepted iff its parts are a number of the convention**, as far as
  28 digits go, and its value is then that of the digits.
-/

namespace PolicyFields.Amount

open Number (Decimal AllDigits)

variable {sep : Char} {cs before : List Char} {behind : Option (List Char)} {seps : Separators}
  {s : String}

/-! ## The last separator -/

/-- The parts of a text before and behind the last `sep`. Without any, the text as a whole stands
before it, and nothing behind. -/
inductive Parts (sep : Char) : List Char → List Char → Option (List Char) → Prop
  | whole {cs : List Char} : sep ∉ cs → Parts sep cs cs none
  | divided (before : List Char) {behind : List Char} :
    sep ∉ behind → Parts sep (before ++ sep :: behind) before (some behind)

theorem splitLast?_of_not_mem (h : sep ∉ cs) : splitLast? sep cs = none := by
  induction cs with
  | nil => rfl
  | cons c r ih =>
    rw [List.mem_cons, not_or] at h
    simp [splitLast?, ih h.2, Ne.symm h.1]

theorem splitLast?_append (before : List Char) {behind : List Char} (h : sep ∉ behind) :
    splitLast? sep (before ++ sep :: behind) = some (before, behind) := by
  induction before with
  | nil => simp [splitLast?, splitLast?_of_not_mem h]
  | cons c before ih => simp [splitLast?, ih]

theorem exists_parts (sep : Char) (cs : List Char) :
    ∃ before behind, Parts sep cs before behind := by
  induction cs with
  | nil => exact ⟨[], none, .whole List.not_mem_nil⟩
  | cons c r ih =>
    obtain ⟨before, behind, hparts⟩ := ih
    cases hparts with
    | divided _ h => exact ⟨c :: before, _, .divided (c :: before) h⟩
    | whole h =>
      by_cases hc : sep = c
      · subst hc
        exact ⟨[], some r, .divided [] h⟩
      · exact ⟨c :: r, none, .whole (by simp [hc, h])⟩

/-! ## Numbers of a convention -/

/-- One digit or more. -/
def IsNumeral (cs : List Char) : Prop := cs ≠ [] ∧ AllDigits cs

theorem isDigits_iff : isDigits cs = true ↔ IsNumeral cs := by
  simp [isDigits, IsNumeral, AllDigits]

theorem IsNumeral.not_mem (h : IsNumeral cs) {c : Char} (hc : c.isDigit = false) : c ∉ cs :=
  fun hmem => Bool.noConfusion ((h.2 c hmem).symm.trans hc)

/-- What stands before the decimal point, without the thousands separators. -/
def Separators.ungrouped (seps : Separators) (before : List Char) : List Char :=
  before.filter (· != seps.thousands)

/-- The parts of a number: a numeral before the point, and another behind it, if there is one. -/
def IsNumber (seps : Separators) (before : List Char) (behind : Option (List Char)) : Prop :=
  IsNumeral (seps.ungrouped before) ∧ ∀ fraction ∈ behind, IsNumeral fraction

theorem parseWith?_eq_ofDigits? (hparts : Parts seps.decimal cs before behind)
    (hnumber : IsNumber seps before behind) :
    parseWith? seps cs = Decimal.ofDigits? (seps.ungrouped before) (behind.getD []) := by
  have hwhole := isDigits_iff.2 hnumber.1
  cases hparts with
  | whole h =>
    simp only [parseWith?, splitLast?_of_not_mem h]
    exact if_pos hwhole
  | divided _ h =>
    simp only [parseWith?, splitLast?_append _ h]
    exact (if_pos (isDigits_iff.2 (hnumber.2 _ rfl))).trans (if_pos hwhole)

theorem parseWith?_eq_none (hparts : Parts seps.decimal cs before behind)
    (hnumber : ¬ IsNumber seps before behind) : parseWith? seps cs = none := by
  cases hparts with
  | whole h =>
    simp only [parseWith?, splitLast?_of_not_mem h]
    refine if_neg fun hwhole => hnumber ⟨isDigits_iff.1 hwhole, ?_⟩
    rintro _ ⟨⟩
  | divided _ h =>
    simp only [parseWith?, splitLast?_append _ h, ite_eq_right_iff]
    intro hfraction hwhole
    refine absurd ⟨isDigits_iff.1 hwhole, ?_⟩ hnumber
    rintro _ ⟨⟩
    exact isDigits_iff.1 hfraction

theorem IsNumber.allDigits_fraction (h : IsNumber seps before behind) :
    AllDigits (behind.getD []) := by
  cases behind with
  | none => exact fun c hc => absurd hc List.not_mem_nil
  | some fraction => exact (h.2 _ rfl).2

/-- Up to 28 digits are read exactly. -/
theorem parseWith?_eq_written (hparts : Parts seps.decimal cs before behind)
    (hnumber : IsNumber seps before behind)
    (hlength : (seps.ungrouped before).length + (behind.getD []).length ≤ 28) :
    parseWith? seps cs = some (.written (seps.ungrouped before) (behind.getD [])) := by
  rw [parseWith?_eq_ofDigits? hparts hnumber]
  exact Decimal.ofDigits?_eq_written hnumber.1.2 hnumber.allDigits_fraction hlength

/-! ## Currency and missing amounts -/

theorem stripCurrencyChars_sublist (cs : List Char) : (stripCurrencyChars cs).Sublist cs := by
  unfold stripCurrencyChars
  dsimp only
  split
  · rename_i amount h
    obtain ⟨ending, -, h⟩ := List.exists_of_findSome?_eq_some h
    unfold dropEnding? at h
    split at h
    · obtain rfl := Option.some.inj h
      exact (Text.trimChars_sublist _).trans
        ((List.take_sublist _ _).trans (Text.trimChars_sublist _))
    · cases h
  · exact Text.trimChars_sublist _

theorem isDigit_of_mem_missingWords {word : String} (hword : word ∈ missingWords) {c : Char}
    (hc : c ∈ word.toList) : c.isDigit = false := by
  have hwords : (missingWords.all fun w => w.toList.all fun c => !c.isDigit) = true := by decide
  have hchars := List.all_eq_true.1 (List.all_eq_true.1 hwords word hword)
  exact Bool.not_eq_eq_eq_not.1 (hchars c hc)

/-- **An amount with a digit in it never counts as missing.** -/
theorem isMissing_of_digit {d : Char} (hd : d.isDigit = true)
    (h : d ∈ Text.trimChars s.toList) : isMissing s = false := by
  have hnonempty : (Text.trim s).isEmpty = false := by
    rw [← Bool.not_eq_true, String.isEmpty_iff, ← String.toList_inj, Text.trim,
      String.toList_ofList]
    exact List.ne_nil_of_mem h
  have hword : missingWords.contains (Text.lower (Text.trim s)) = false := by
    rw [← Bool.not_eq_true, List.contains_iff_mem]
    intro hmem
    have hlower := (Text.mem_lowerChars_iff (Text.isBelowLetters_of_isDigit hd)).2 h
    have hother := isDigit_of_mem_missingWords hmem (by simpa [Text.lower, Text.trim] using hlower)
    exact Bool.noConfusion (hd.symm.trans hother)
  simp only [isMissing, hnonempty, hword, Bool.or_false]

/-! ## Reading by a convention -/

theorem toList_stripCurrency_trim (s : String) :
    (stripCurrency (Text.trim s)).toList = stripCurrencyChars (Text.trimChars s.toList) := by
  rw [stripCurrency, Text.trim, String.toList_ofList, String.toList_ofList]

theorem parse?_eq (style : Style) (h : isMissing s = false) :
    parse? style s = parseWith? (style.separators (stripCurrency (Text.trim s)).toList)
      (stripCurrency (Text.trim s)).toList := by
  rw [parse?, if_neg (by simp [h]), toList_stripCurrency_trim]

/-- Blanks around an amount do not matter. -/
theorem parse?_trim (style : Style) (s : String) : parse? style (Text.trim s) = parse? style s := by
  have hmissing : isMissing (Text.trim s) = isMissing s := by
    rw [isMissing, isMissing, Text.trim_trim]
  have htext : Text.trimChars (Text.trim s).toList = Text.trimChars s.toList := by
    rw [Text.trim, String.toList_ofList, Text.trimChars_trimChars]
  rw [parse?, parse?, hmissing, htext]

theorem IsNumber.exists_digit (h : IsNumber seps before behind) :
    ∃ d ∈ before, d.isDigit = true := by
  obtain ⟨d, hd⟩ := List.exists_mem_of_ne_nil _ h.1.1
  exact ⟨d, List.mem_of_mem_filter hd, h.1.2 d hd⟩

theorem Parts.mem (h : Parts sep cs before behind) {c : Char} (hc : c ∈ before) : c ∈ cs := by
  cases h with
  | whole _ => exact hc
  | divided _ _ => exact List.mem_append_left _ hc

/-- A number is not taken for a missing amount. -/
theorem Parts.not_missing (hparts : Parts sep (stripCurrency (Text.trim s)).toList before behind)
    (hnumber : IsNumber seps before behind) : isMissing s = false := by
  obtain ⟨d, hmem, hd⟩ := hnumber.exists_digit
  have hbare : d ∈ stripCurrencyChars (Text.trimChars s.toList) :=
    toList_stripCurrency_trim s ▸ hparts.mem hmem
  exact isMissing_of_digit hd ((stripCurrencyChars_sublist _).subset hbare)

/-- How `style` reads `s`, whose parts without blanks and currency are `before` and `behind` in the
convention `seps`. -/
structure Reads (seps : Separators) (style : Style) (s : String) (before : List Char)
    (behind : Option (List Char)) : Prop where
  parts : Parts seps.decimal (stripCurrency (Text.trim s)).toList before behind
  /-- Nothing but numbers is accepted. -/
  isNumber : (parse? style s).isSome → IsNumber seps before behind
  /-- No number is taken for a missing amount. -/
  not_missing : IsNumber seps before behind → isMissing s = false
  /-- Numbers of up to 28 digits are accepted, with their value and the places that are written. -/
  exact : IsNumber seps before behind →
    (seps.ungrouped before).length + (behind.getD []).length ≤ 28 →
    ∃ d, parse? style s = some d ∧ d.negative = false ∧ d.scale = (behind.getD []).length ∧
      d.value = Nat.ofDigitChars 10 (seps.ungrouped before) 0 +
        Nat.ofDigitChars 10 (behind.getD []) 0 / 10 ^ (behind.getD []).length

theorem exists_reads {style : Style} (hstyle : ∀ cs, style.separators cs = seps) (s : String) :
    ∃ before behind, Reads seps style s before behind := by
  obtain ⟨before, behind, hparts⟩ :=
    exists_parts seps.decimal (stripCurrency (Text.trim s)).toList
  have hmissing : IsNumber seps before behind → isMissing s = false := hparts.not_missing
  refine ⟨before, behind, hparts, ?_, hmissing, ?_⟩
  · intro hsome
    by_contra hnumber
    cases hm : isMissing s with
    | true => simp [parse?, hm] at hsome
    | false =>
      rw [parse?_eq style hm, hstyle, parseWith?_eq_none hparts hnumber] at hsome
      cases hsome
  · intro hnumber hlength
    refine ⟨.written (seps.ungrouped before) (behind.getD []), ?_, rfl, rfl,
      Decimal.value_written _ _⟩
    rw [parse?_eq style (hmissing hnumber), hstyle]
    exact parseWith?_eq_written hparts hnumber hlength

/-- **The two conventions accept their numbers and nothing else, and read them exactly.** They are
the same but for the roles of point and comma. -/
theorem parse?_reads (s : String) :
    (∃ before behind, Reads turkish .turkish s before behind) ∧
      ∃ before behind, Reads english .english s before behind :=
  ⟨exists_reads (fun _ => rfl) s, exists_reads (fun _ => rfl) s⟩

/-- The points need not stand between groups of three digits. -/
example : parse? .turkish " 1.25,50 TL" = some ⟨false, 12550, 2⟩ := by decide

end PolicyFields.Amount
