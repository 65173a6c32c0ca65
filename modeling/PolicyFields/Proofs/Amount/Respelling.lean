import PolicyFields.Proofs.Amount.Currency
import PolicyFields.Proofs.Number.Numeral

/-!
# Respelled amounts

A Turkish amount is respelled with commas for points, so that commas stand between its groups and
before its decimals. Zero decimals are dropped.

* `IsPrice` — an amount in its proper Turkish form, whole or with two decimals.
* `toList_respellWhole` — its respelling: the same groups and decimals, with commas only.
* `canonical_commas_inj` — **the last comma shows what it is for**: decimals are two, and a group is
  of three digits.
* `respellWhole_prices` — **whole amounts are read back, and different amounts stay different**.
-/

namespace PolicyFields.Amount

open Number (Decimal AllDigits)
open Text (AllBlank)

variable {cs : List Char} {n n' : Nat} {places places' : Option (List Char)} {s s' : String}

/-- A comma groups thousands and separates decimals. -/
def commas : Separators := ⟨',', ','⟩

/-- Zero decimals are as good as none. -/
def significant (places : Option (List Char)) : Option (List Char) :=
  places.filter (· != ['0', '0'])

/-- There are two decimals, if there are any. -/
def TwoPlaces (places : Option (List Char)) : Prop :=
  ∀ dd ∈ places, IsNumeral dd ∧ dd.length = 2

/-- `s` is the Turkish amount with the whole part `n`, of 26 digits at most, and the two decimals
`places`, if there are any. -/
structure IsPrice (s : String) (n : Nat) (places : Option (List Char)) : Prop where
  text : s = String.ofList (canonical turkish n places)
  digits : (Nat.toDigits 10 n).length ≤ 26
  places : TwoPlaces places

/-- Both amounts are read, and their numbers are equal. -/
def SameNumber (x y : Option Decimal) : Prop :=
  ∃ d e, x = some d ∧ y = some e ∧ d.value = e.value

/-! ## The respelling -/

/-- A comma for a point. -/
def pointToComma (c : Char) : Char := if c == '.' then ',' else c

theorem IsNumeral.map_pointToComma (h : IsNumeral cs) : cs.map pointToComma = cs := by
  refine (List.map_congr_left fun c hc => ?_).trans (List.map_id cs)
  refine if_neg fun hpoint => ?_
  obtain rfl := beq_iff_eq.1 hpoint
  exact h.not_mem rfl hc

theorem map_pointToComma_grouped (n : Nat) : (grouped '.' n).map pointToComma = grouped ',' n := by
  induction n using Nat.strong_induction_on with
  | _ n ih =>
    by_cases hn : n < 1000
    · rw [grouped_of_lt _ hn, grouped_of_lt _ hn, (isNumeral_toDigits n).map_pointToComma]
    · have hle := Nat.not_lt.1 hn
      rw [grouped_of_le _ hle, grouped_of_le _ hle, List.map_append, List.map_cons,
        ih (n / 1000) (by omega), (isNumeral_lastThree n).map_pointToComma]
      rfl

theorem map_pointToComma_canonical (hplaces : TwoPlaces places) :
    (canonical turkish n places).map pointToComma = canonical commas n places := by
  cases places with
  | none => exact map_pointToComma_grouped n
  | some dd =>
    have hgroups : (grouped turkish.thousands n).map pointToComma = grouped ',' n :=
      map_pointToComma_grouped n
    rw [canonical, List.map_append, List.map_cons, hgroups, (hplaces dd rfl).1.map_pointToComma]
    rfl

theorem significant_of_ne {dd : List Char} (h : dd ≠ ['0', '0']) :
    significant (some dd) = some dd := by
  simp [significant, h]

/-- Decimals that are both zero are dropped, and no others. -/
theorem dropZeros_canonical (hplaces : TwoPlaces places) :
    (dropEnding? [',', '0', '0'] (canonical turkish n places)).getD (canonical turkish n places) =
      canonical turkish n (significant places) := by
  cases places with
  | none =>
    have hnone : dropEnding? [',', '0', '0'] (canonical turkish n none) = none := by
      refine if_neg fun hsuffix => ?_
      have hcomma : ',' ∈ grouped '.' n :=
        (List.isSuffixOf_iff_suffix.1 hsuffix).subset List.mem_cons_self
      exact not_mem_grouped rfl (by decide) n hcomma
    rw [hnone]
    rfl
  | some dd =>
    by_cases hzero : dd = ['0', '0']
    · subst hzero
      exact congrArg (Option.getD · _) (dropEnding?_append (grouped '.' n) [',', '0', '0'])
    · have hnone : dropEnding? [',', '0', '0'] (canonical turkish n (some dd)) = none := by
        refine Option.eq_none_iff_forall_ne_some.2 fun before hdrop => hzero ?_
        have hsplit : grouped '.' n ++ ',' :: dd = before ++ [',', '0', '0'] :=
          exists_of_dropEnding? hdrop
        have hlength : (',' :: dd).length = [',', '0', '0'].length := by
          rw [List.length_cons, (hplaces dd rfl).2]
          rfl
        exact (List.cons.inj (List.append_inj_right' hsplit hlength)).2
      rw [hnone, significant_of_ne hzero]
      rfl

/-- Two decimals are left of an amount, zeros for none, whether zeros are dropped or not. -/
theorem getD_significant (places : Option (List Char)) :
    (significant places).getD ['0', '0'] = places.getD ['0', '0'] := by
  cases places with
  | none => rfl
  | some dd =>
    by_cases hzero : dd = ['0', '0']
    · rw [hzero]
      rfl
    · rw [significant_of_ne hzero]

theorem significant_eq_iff :
    significant places = significant places' ↔
      places.getD ['0', '0'] = places'.getD ['0', '0'] := by
  have hfilled (p : Option (List Char)) :
      significant p = significant (some (p.getD ['0', '0'])) := by
    cases p <;> rfl
  constructor
  · intro h
    rw [← getD_significant, h, getD_significant]
  · intro h
    rw [hfilled, h, ← hfilled]

theorem TwoPlaces.none : TwoPlaces none := nofun

theorem TwoPlaces.significant (h : TwoPlaces places) : TwoPlaces (significant places) :=
  fun dd hdd => h dd ((Option.mem_filter_iff.1 hdd).1)

/-- **The respelling of an amount** has commas only, and no zero decimals. -/
theorem toList_respellWhole (hs : IsPrice s n places) :
    (respellWhole s).toList = ' ' :: canonical commas n (significant places) ++ [' '] := by
  have htext : s.toList = canonical turkish n places := by rw [hs.text, String.toList_ofList]
  have hne : s.isEmpty = false := by
    have hdigits := betweenDigits_canonical turkish n fun dd hdd => (hs.places dd hdd).1
    rw [String.isEmpty_eq_false_iff, ne_eq, ← String.toList_inj, htext]
    exact hdigits.trimmed.ne_nil
  have hpadded (ds : List Char) : padded ds = ' ' :: ds.map pointToComma ++ [' '] := rfl
  rw [respellWhole, if_neg (by simp [hne]), String.toList_ofList, htext,
    dropZeros_canonical hs.places, hpadded, map_pointToComma_canonical hs.places.significant]

/-! ## Commas of two kinds -/

theorem grouped_injective {sep : Char} (hsep : sep.isDigit = false)
    (h : grouped sep n = grouped sep n') : n = n' := by
  have hdigits := congrArg (List.filter (· != sep)) h
  rw [filter_grouped hsep, filter_grouped hsep] at hdigits
  rw [← Nat.ofDigitChars_ten_toDigits (n := n), hdigits, Nat.ofDigitChars_ten_toDigits]

/-- What stands behind the last comma of a whole amount is a group of three digits. -/
theorem length_behind_grouped {before behind : List Char}
    (h : splitLast? ',' (grouped ',' n) = some (before, behind)) : behind.length = 3 := by
  by_cases hn : n < 1000
  · rw [grouped_of_lt _ hn, splitLast?_of_not_mem ((isNumeral_toDigits n).not_mem rfl)] at h
    cases h
  · rw [grouped_of_le _ (Nat.not_lt.1 hn),
      splitLast?_append _ ((isNumeral_lastThree n).not_mem rfl)] at h
    obtain ⟨-, rfl⟩ := Prod.mk.inj (Option.some.inj h)
    rfl

theorem grouped_ne_divided {dd : List Char} (hdd : IsNumeral dd) (hlength : dd.length = 2) :
    grouped ',' n ≠ grouped ',' n' ++ ',' :: dd := by
  intro h
  have hlast : splitLast? ',' (grouped ',' n) = some (grouped ',' n', dd) := by
    rw [h, splitLast?_append _ (hdd.not_mem rfl)]
  exact absurd (length_behind_grouped hlast) (by omega)

/-- **The last comma shows what it is for**, so that amounts which are written alike are the
same. -/
theorem canonical_commas_inj (hplaces : TwoPlaces places) (hplaces' : TwoPlaces places')
    (h : canonical commas n places = canonical commas n' places') : n = n' ∧ places = places' := by
  cases places with
  | none =>
    cases places' with
    | none => exact ⟨grouped_injective rfl h, rfl⟩
    | some dd => exact absurd h (grouped_ne_divided (hplaces' dd rfl).1 (hplaces' dd rfl).2)
  | some dd =>
    cases places' with
    | none => exact absurd h.symm (grouped_ne_divided (hplaces dd rfl).1 (hplaces dd rfl).2)
    | some dd' =>
      have hlength : (',' :: dd).length = (',' :: dd').length := by
        rw [List.length_cons, List.length_cons, (hplaces dd rfl).2, (hplaces' dd' rfl).2]
      obtain ⟨hgroups, hdecimals⟩ := List.append_inj' h hlength
      exact ⟨grouped_injective rfl hgroups, congrArg some (List.cons.inj hdecimals).2⟩

/-! ## The number of an amount -/

/-- The number of hundredths in an amount. -/
def hundredths (n : Nat) (places : Option (List Char)) : Nat :=
  n * 100 + Nat.ofDigitChars 10 (places.getD ['0', '0']) 0

theorem IsPrice.parse?_eq (hs : IsPrice s n places) :
    parse? .turkish s = some (.written (Nat.toDigits 10 n) (places.getD [])) := by
  have hlength : (Nat.toDigits 10 n).length + (places.getD []).length ≤ 28 := by
    have hdigits := hs.digits
    cases hplaces : places with
    | none => exact hdigits.trans (by decide)
    | some dd =>
      rw [Option.getD_some, (hs.places dd hplaces).2]
      omega
  rw [hs.text]
  exact parse?_canonical (fun _ => rfl) turkish_proper (fun dd hdd => (hs.places dd hdd).1) hlength

theorem value_written_toDigits (hplaces : TwoPlaces places) :
    (Decimal.written (Nat.toDigits 10 n) (places.getD [])).value = hundredths n places / 100 := by
  rw [Decimal.value_written, Nat.ofDigitChars_ten_toDigits, hundredths]
  cases places with
  | none =>
    have hzero : Nat.ofDigitChars 10 ['0', '0'] 0 = 0 := by decide
    simp [hzero]
  | some dd =>
    rw [Option.getD_some, Option.getD_some, (hplaces dd rfl).2]
    push_cast
    ring

/-- Amounts of as many hundredths have the same whole part and the same decimals, but for zeros. -/
theorem hundredths_inj (hplaces : TwoPlaces places) (hplaces' : TwoPlaces places') :
    hundredths n places = hundredths n' places' ↔
      n = n' ∧ significant places = significant places' := by
  have htwo {p : Option (List Char)} (hp : TwoPlaces p) :
      AllDigits (p.getD ['0', '0']) ∧ (p.getD ['0', '0']).length = 2 := by
    cases p with
    | none => exact ⟨List.all_eq_true.1 (by decide), rfl⟩
    | some dd => exact ⟨(hp dd rfl).1.2, (hp dd rfl).2⟩
  have hbelow {p : Option (List Char)} (hp : TwoPlaces p) :
      Nat.ofDigitChars 10 (p.getD ['0', '0']) 0 < 100 := by
    have hlt := Number.ofDigitChars_lt (htwo hp).1
    rwa [(htwo hp).2] at hlt
  have hlow := hbelow hplaces
  have hlow' := hbelow hplaces'
  rw [significant_eq_iff, hundredths, hundredths]
  constructor
  · intro h
    obtain ⟨hwhole, hdecimals⟩ : n = n' ∧ Nat.ofDigitChars 10 (places.getD ['0', '0']) 0 =
        Nat.ofDigitChars 10 (places'.getD ['0', '0']) 0 := by omega
    obtain ⟨hdigits, hlength⟩ := htwo hplaces
    obtain ⟨hdigits', hlength'⟩ := htwo hplaces'
    exact ⟨hwhole, Number.ofDigitChars_inj hdigits hdigits' (hlength.trans hlength'.symm) hdecimals⟩
  · rintro ⟨rfl, h⟩
    rw [h]

theorem sameNumber_iff (hs : IsPrice s n places) (hs' : IsPrice s' n' places') :
    SameNumber (parse? .turkish s) (parse? .turkish s') ↔
      n = n' ∧ significant places = significant places' := by
  have hvalues : SameNumber (parse? .turkish s) (parse? .turkish s') ↔
      (hundredths n places : ℚ) / 100 = hundredths n' places' / 100 := by
    rw [hs.parse?_eq, hs'.parse?_eq, ← value_written_toDigits hs.places,
      ← value_written_toDigits hs'.places]
    constructor
    · rintro ⟨d, e, hd, he, h⟩
      rw [Option.some.inj hd, Option.some.inj he, h]
    · exact fun h => ⟨_, _, rfl, rfl, h⟩
  rw [hvalues, div_left_inj' (by decide), Nat.cast_inj, hundredths_inj hs.places hs'.places]

/-- A respelled amount is read without the spaces around it. -/
theorem parse?_respellWhole (hs : IsPrice s n places) (style : Style) :
    parse? style (respellWhole s) =
      parse? style (String.ofList (canonical commas n (significant places))) := by
  have hspace : AllBlank [' '] := List.forall_mem_singleton.2 Text.isBlank_space
  have hdigits : BetweenDigits (canonical commas n (significant places)) :=
    betweenDigits_canonical commas n fun dd hdd => (hs.places.significant dd hdd).1
  rw [← parse?_trim, Text.trim, toList_respellWhole hs]
  exact congrArg (parse? style <| String.ofList ·)
    (Text.trimChars_append hspace hdigits.trimmed hspace)

/-- **Respelling keeps whole amounts, and it keeps all amounts apart.** Without decimals, or with
zeros for them, what is written with commas is read as the same number in the English convention and
without one. Two amounts are respelled alike exactly if they are the same number. -/
theorem respellWhole_prices (hs : IsPrice s n places) :
    (places = none ∨ places = some ['0', '0'] →
      SameNumber (parse? .english (respellWhole s)) (parse? .turkish s) ∧
        SameNumber (parse? .auto (respellWhole s)) (parse? .turkish s)) ∧
    ∀ s' n' places', IsPrice s' n' places' →
      (respellWhole s = respellWhole s' ↔ SameNumber (parse? .turkish s) (parse? .turkish s')) := by
  refine ⟨fun hzero => ?_, fun s' n' places' hs' => ?_⟩
  · have hnone : significant places = none := by rcases hzero with rfl | rfl <;> rfl
    have hwhole : canonical commas n (significant places) = canonical english n none := by
      rw [hnone]
      rfl
    have hno : ∀ fraction ∈ (none : Option (List Char)), IsNumeral fraction := nofun
    have hlength : (Nat.toDigits 10 n).length + 0 ≤ 28 := hs.digits.trans (by decide)
    have henglish : parse? .english (respellWhole s) = some (.written (Nat.toDigits 10 n) []) := by
      rw [parse?_respellWhole hs, hwhole]
      exact parse?_canonical (fun _ => rfl) english_proper hno hlength
    have hauto : parse? .auto (respellWhole s) = some (.written (Nat.toDigits 10 n) []) := by
      rw [parse?_respellWhole hs, hwhole, parse?_auto_english hno hlength, if_neg (by simp)]
      rfl
    have hvalue : (Decimal.written (Nat.toDigits 10 n) []).value =
        (Decimal.written (Nat.toDigits 10 n) (places.getD [])).value := by
      have hsame := (hundredths_inj (n := n) .none hs.places).2 ⟨rfl, hnone.symm⟩
      rw [value_written_toDigits hs.places, ← hsame]
      exact @value_written_toDigits n none .none
    exact ⟨⟨_, _, henglish, hs.parse?_eq, hvalue⟩, ⟨_, _, hauto, hs.parse?_eq, hvalue⟩⟩
  · rw [sameNumber_iff hs hs', ← String.toList_inj, toList_respellWhole hs, toList_respellWhole hs']
    constructor
    · intro h
      have hinner := List.append_cancel_right (List.cons.inj h).2
      exact canonical_commas_inj hs.places.significant hs'.places.significant hinner
    · rintro ⟨rfl, h⟩
      rw [h]

/-- Zero decimals, which are dropped, and others, whose comma stands where a group has one. -/
theorem respellWhole_prices_two :
    respellWhole "1.234,00" = " 1,234 " ∧
      SameNumber (parse? .auto " 1,234 ") (parse? .turkish "1.234,00") ∧
      respellWhole "1.234,50" = " 1,234,50 " ∧
      respellWhole "1.234,00" = respellWhole "1.234" ∧
      respellWhole "1.234,00" ≠ respellWhole "1.234,50" := by
  have hnumeral {c d : Char} (hc : c.isDigit = true) (hd : d.isDigit = true) :
      TwoPlaces (some [c, d]) := by
    rintro _ ⟨⟩
    exact ⟨isDigits_iff.1 (by simp [isDigits, hc, hd]), rfl⟩
  have hzeros : IsPrice "1.234,00" 1234 (some ['0', '0']) :=
    ⟨by cbv, by decide, hnumeral rfl rfl⟩
  have hfifty : IsPrice "1.234,50" 1234 (some ['5', '0']) :=
    ⟨by cbv, by decide, hnumeral rfl rfl⟩
  have hwhole : IsPrice "1.234" 1234 none := ⟨by cbv, by decide, .none⟩
  have htext : respellWhole "1.234,00" = " 1,234 " := by decide
  obtain ⟨hkept, happart⟩ := respellWhole_prices hzeros
  refine ⟨htext, htext ▸ (hkept (.inr rfl)).2, by decide, ?_, fun h => ?_⟩
  · exact (happart _ _ _ hwhole).2 ((sameNumber_iff hzeros hwhole).2 ⟨rfl, rfl⟩)
  · have hsame := (sameNumber_iff hzeros hfifty).1 ((happart _ _ _ hfifty).1 h)
    exact absurd hsame.2 (by decide)

end PolicyFields.Amount
