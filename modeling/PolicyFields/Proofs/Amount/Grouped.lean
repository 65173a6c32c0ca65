import PolicyFields.Proofs.Amount.Grammar

/-!
# Amounts in their proper form

* `grouped` — a number with a separator between its groups of three digits.
* `canonical` — an amount as a convention writes it: a grouped whole part, and perhaps a fraction.
* `parse?_canonical` — **a convention reads back what it writes**.
* `parse?_auto_canonical` — **without a convention, amounts are read back** too, but for two kinds
  of fractions below one thousand: Turkish ones, whose comma is taken to group thousands, and
  English ones of three places, whose point is.
-/

namespace PolicyFields.Amount

open Number (Decimal AllDigits)

variable {sep : Char} {cs : List Char} {seps : Separators} {n : Nat} {fraction : List Char}

/-! ## Grouping -/

/-- The last three digits of `n`. -/
def lastThree (n : Nat) : List Char :=
  [Nat.digitChar (n / 100 % 10), Nat.digitChar (n / 10 % 10), Nat.digitChar (n % 10)]

/-- `n` with `sep` between its groups of three digits, counted from the right. -/
def grouped (sep : Char) (n : Nat) : List Char :=
  if n < 1000 then Nat.toDigits 10 n else grouped sep (n / 1000) ++ sep :: lastThree n
termination_by n

theorem grouped_of_lt (sep : Char) (h : n < 1000) : grouped sep n = Nat.toDigits 10 n := by
  rw [grouped, if_pos h]

theorem grouped_of_le (sep : Char) (h : 1000 ≤ n) :
    grouped sep n = grouped sep (n / 1000) ++ sep :: lastThree n := by
  rw [grouped, if_neg (Nat.not_lt.2 h)]

theorem isNumeral_toDigits (n : Nat) : IsNumeral (Nat.toDigits 10 n) :=
  ⟨Nat.toDigits_ne_nil, Number.allDigits_toDigits n⟩

theorem isNumeral_lastThree (n : Nat) : IsNumeral (lastThree n) := by
  refine ⟨List.cons_ne_nil _ _, fun c hc => ?_⟩
  simp only [lastThree, List.mem_cons, List.not_mem_nil, or_false] at hc
  rcases hc with rfl | rfl | rfl <;>
    exact Nat.isDigit_digitChar.trans (decide_eq_true (Nat.mod_lt _ (by decide)))

theorem toDigits_append_lastThree (h : 1000 ≤ n) :
    Nat.toDigits 10 (n / 1000) ++ lastThree n = Nat.toDigits 10 n := by
  have hstep : ∀ m, 10 ≤ m → Nat.toDigits 10 m = Nat.toDigits 10 (m / 10) ++ [(m % 10).digitChar] :=
    fun m hm => Nat.toDigits_of_base_le (by decide) hm
  rw [hstep n (by omega), hstep (n / 10) (by omega), hstep (n / 10 / 10) (by omega)]
  simp [lastThree, Nat.div_div_eq_div_mul]

theorem IsNumeral.filter_eq_self (h : IsNumeral cs) (hsep : sep.isDigit = false) :
    cs.filter (· != sep) = cs := by
  refine List.filter_eq_self.2 fun c hc => bne_iff_ne.2 ?_
  rintro rfl
  exact h.not_mem hsep hc

/-- Nothing but separators stands between the digits. -/
theorem filter_grouped (h : sep.isDigit = false) (n : Nat) :
    (grouped sep n).filter (· != sep) = Nat.toDigits 10 n := by
  induction n using Nat.strong_induction_on with
  | _ n ih =>
    by_cases hn : n < 1000
    · rw [grouped_of_lt sep hn, (isNumeral_toDigits n).filter_eq_self h]
    · have hle := Nat.not_lt.1 hn
      rw [grouped_of_le sep hle, List.filter_append, ih (n / 1000) (by omega),
        List.filter_cons_of_neg (by simp), (isNumeral_lastThree n).filter_eq_self h,
        toDigits_append_lastThree hle]

/-- No other separator stands between the digits. -/
theorem not_mem_grouped {c : Char} (hdigit : c.isDigit = false) (hsep : c ≠ sep) (n : Nat) :
    c ∉ grouped sep n := by
  induction n using Nat.strong_induction_on with
  | _ n ih =>
    by_cases hn : n < 1000
    · rw [grouped_of_lt sep hn]
      exact (isNumeral_toDigits n).not_mem hdigit
    · rw [grouped_of_le sep (Nat.not_lt.1 hn), List.mem_append, List.mem_cons, not_or, not_or]
      exact ⟨ih (n / 1000) (by omega), hsep, (isNumeral_lastThree n).not_mem hdigit⟩

/-! ## Texts between two digits -/

/-- A digit comes first, and a digit comes last. -/
def BetweenDigits (cs : List Char) : Prop :=
  (∃ d ∈ cs.head?, d.isDigit = true) ∧ ∃ d ∈ cs.getLast?, d.isDigit = true

theorem IsNumeral.betweenDigits (h : IsNumeral cs) : BetweenDigits cs :=
  ⟨⟨cs.head h.1, List.head?_eq_some_head h.1, h.2 _ (List.head_mem h.1)⟩,
    cs.getLast h.1, List.getLast?_eq_some_getLast h.1, h.2 _ (List.getLast_mem h.1)⟩

theorem BetweenDigits.append (h : BetweenDigits cs) (c : Char) (hf : IsNumeral fraction) :
    BetweenDigits (cs ++ c :: fraction) := by
  obtain ⟨⟨d, hd, hdigit⟩, -⟩ := h
  obtain ⟨e, he, hlast⟩ := hf.betweenDigits.2
  refine ⟨⟨d, ?_, hdigit⟩, e, ?_, hlast⟩
  · rw [List.head?_append, Option.mem_def.1 hd]
    rfl
  · rw [List.getLast?_append, List.getLast?_cons, Option.mem_def.1 he]
    rfl

theorem betweenDigits_grouped (sep : Char) (n : Nat) : BetweenDigits (grouped sep n) := by
  induction n using Nat.strong_induction_on with
  | _ n ih =>
    by_cases hn : n < 1000
    · rw [grouped_of_lt sep hn]
      exact (isNumeral_toDigits n).betweenDigits
    · rw [grouped_of_le sep (Nat.not_lt.1 hn)]
      exact (ih (n / 1000) (by omega)).append sep (isNumeral_lastThree n)

theorem isBlank_of_isDigit {d : Char} (h : d.isDigit = true) : Text.isBlank d = false := by
  obtain ⟨hlow, hhigh⟩ := Char.isDigit_iff_toNat.1 h
  change 48 ≤ d.toNat at hlow
  change d.toNat ≤ 57 at hhigh
  simp only [Text.isBlank, Bool.or_eq_false_iff, Bool.and_eq_false_iff, decide_eq_false_iff_not,
    beq_eq_false_iff_ne]
  omega

/-- No currency ends with a digit. -/
theorem findSome?_dropEnding?_eq_none (h : ∃ d ∈ cs.getLast?, d.isDigit = true) :
    currencySuffixes.findSome? (fun ending => dropEnding? ending cs) = none := by
  obtain ⟨d, hd, hdigit⟩ := h
  have hendings : (currencySuffixes.all fun e => e.getLast?.any fun c => !c.isDigit) = true := by
    decide
  rw [List.findSome?_eq_none_iff]
  intro ending hmem
  refine if_neg fun hsuffix => ?_
  obtain ⟨before, rfl⟩ := List.isSuffixOf_iff_suffix.1 hsuffix
  obtain ⟨c, hc, hother⟩ := (Option.any_eq_true _ _).1 (List.all_eq_true.1 hendings ending hmem)
  rw [List.getLast?_append, hc, Option.some_or] at hd
  obtain rfl := Option.some.inj hd
  rw [hdigit] at hother
  cases hother

/-- Nothing is trimmed off a text that ends with a digit, unless it begins with a blank. -/
theorem trimChars_eq_self (hfirst : ∀ c ∈ cs.head?, Text.isBlank c = false)
    (hlast : ∃ e ∈ cs.getLast?, e.isDigit = true) : Text.trimChars cs = cs := by
  obtain ⟨e, he, hdigit⟩ := hlast
  refine Text.trimChars_eq_self hfirst fun c hc => ?_
  obtain rfl := Option.some.inj (he.symm.trans hc)
  exact isBlank_of_isDigit hdigit

/-- Such a text is read as it stands. -/
theorem parse?_eq_self (hfirst : ∀ c ∈ cs.head?, Text.isBlank c = false)
    (hlast : ∃ e ∈ cs.getLast?, e.isDigit = true) (style : Style) :
    parse? style (String.ofList cs) = parseWith? (style.separators cs) cs := by
  have htrim := trimChars_eq_self hfirst hlast
  obtain ⟨e, he, hdigit⟩ := hlast
  have hstrip : (stripCurrency (Text.trim (String.ofList cs))).toList = cs := by
    rw [toList_stripCurrency_trim, String.toList_ofList, htrim, stripCurrencyChars, htrim,
      findSome?_dropEnding?_eq_none ⟨e, he, hdigit⟩]
  have hmissing : isMissing (String.ofList cs) = false := by
    refine isMissing_of_digit hdigit ?_
    rw [String.toList_ofList, htrim]
    exact List.mem_of_getLast? he
  rw [Amount.parse?_eq style hmissing, hstrip]

/-- A text between digits is read as it stands. -/
theorem BetweenDigits.parse?_eq (h : BetweenDigits cs) (style : Style) :
    parse? style (String.ofList cs) = parseWith? (style.separators cs) cs := by
  obtain ⟨⟨d, hd, hdigit⟩, hlast⟩ := h
  refine parse?_eq_self (fun c hc => ?_) hlast style
  obtain rfl := Option.some.inj (hd.symm.trans hc)
  exact isBlank_of_isDigit hdigit

/-! ## What a convention writes -/

/-- The separators are two different characters and no digits. -/
structure Separators.Proper (seps : Separators) : Prop where
  thousands : seps.thousands.isDigit = false
  decimal : seps.decimal.isDigit = false
  ne : seps.decimal ≠ seps.thousands

theorem turkish_proper : turkish.Proper := ⟨rfl, rfl, by decide⟩

theorem english_proper : english.Proper := ⟨rfl, rfl, by decide⟩

/-- The amount with the whole part `n`, and with a fraction if there is one, as a convention writes
it. -/
def canonical (seps : Separators) (n : Nat) : Option (List Char) → List Char
  | none => grouped seps.thousands n
  | some fraction => grouped seps.thousands n ++ seps.decimal :: fraction

theorem parseWith?_canonical (hseps : seps.Proper) {behind : Option (List Char)}
    (hbehind : ∀ fraction ∈ behind, IsNumeral fraction)
    (hlength : (Nat.toDigits 10 n).length + (behind.getD []).length ≤ 28) :
    parseWith? seps (canonical seps n behind) =
      some (.written (Nat.toDigits 10 n) (behind.getD [])) := by
  have hungrouped : seps.ungrouped (grouped seps.thousands n) = Nat.toDigits 10 n :=
    filter_grouped hseps.thousands n
  have hparts : Parts seps.decimal (canonical seps n behind) (grouped seps.thousands n) behind := by
    cases behind with
    | none => exact .whole (not_mem_grouped hseps.decimal hseps.ne n)
    | some fraction => exact .divided _ ((hbehind _ rfl).not_mem hseps.decimal)
  have hnumber : IsNumber seps (grouped seps.thousands n) behind :=
    ⟨hungrouped.symm ▸ isNumeral_toDigits n, hbehind⟩
  rw [parseWith?_eq_written hparts hnumber (hungrouped.symm ▸ hlength), hungrouped]

/-- A fraction behind a thousands separator is read as more digits of the whole part. -/
theorem parseWith?_thousands (hseps : seps.Proper) (hfraction : IsNumeral fraction)
    (hlength : (Nat.toDigits 10 n).length + fraction.length ≤ 28) :
    parseWith? seps (Nat.toDigits 10 n ++ seps.thousands :: fraction) =
      some (.written (Nat.toDigits 10 n ++ fraction) []) := by
  have hwhole := isNumeral_toDigits n
  have hungrouped : seps.ungrouped (Nat.toDigits 10 n ++ seps.thousands :: fraction) =
      Nat.toDigits 10 n ++ fraction := by
    rw [Separators.ungrouped, List.filter_append, List.filter_cons_of_neg (by simp),
      hwhole.filter_eq_self hseps.thousands, hfraction.filter_eq_self hseps.thousands]
  have hnopoint : seps.decimal ∉ Nat.toDigits 10 n ++ seps.thousands :: fraction := by
    rw [List.mem_append, List.mem_cons, not_or, not_or]
    exact ⟨hwhole.not_mem hseps.decimal, hseps.ne, hfraction.not_mem hseps.decimal⟩
  have hnumber : IsNumber seps (Nat.toDigits 10 n ++ seps.thousands :: fraction) none := by
    refine ⟨hungrouped.symm ▸ ⟨by simp [hwhole.1], fun c hc => ?_⟩, fun _ h => by cases h⟩
    exact (List.mem_append.1 hc).elim (hwhole.2 c) (hfraction.2 c)
  have hdigits : (Nat.toDigits 10 n ++ fraction).length + 0 ≤ 28 := by
    rwa [List.length_append]
  rw [parseWith?_eq_written (.whole hnopoint) hnumber (hungrouped.symm ▸ hdigits), hungrouped]
  rfl

/-! ## What the separators suggest -/

theorem byteCount_eq_length (h : AllDigits cs) : byteCount cs = cs.length := by
  suffices ∀ k, cs.foldl (fun n c => n + c.utf8Size) k = k + cs.length by
    rw [byteCount, this, Nat.zero_add]
  induction cs with
  | nil => exact fun k => rfl
  | cons c cs ih =>
    intro k
    have hdigit : c.toNat ≤ 57 := (Char.isDigit_iff_toNat.1 (h c List.mem_cons_self)).2
    have hsize : c.utf8Size = 1 :=
      Char.utf8Size_eq_one_iff.2 (UInt32.le_iff_toNat_le.2 (hdigit.trans (by decide)))
    rw [List.foldl_cons, ih fun d hd => h d (List.mem_cons_of_mem _ hd), hsize, List.length_cons]
    omega

theorem impliesDecimal_append (before : List Char) (h : IsNumeral fraction) :
    impliesDecimal (before ++ '.' :: fraction) =
      (!before.contains '.' && fraction.length != 3) := by
  rw [impliesDecimal, splitLast?_append before (h.not_mem rfl), ← byteCount_eq_length h.2]

theorem detect_of_no_point (h : '.' ∉ cs) : detect cs = english := by
  have hpoint : cs.contains '.' = false := by simpa using h
  rw [detect, hpoint]
  split <;> first | rfl | contradiction

theorem detect_of_no_comma (hpoint : '.' ∈ cs) (hcomma : ',' ∉ cs) :
    detect cs = if impliesDecimal cs then english else turkish := by
  rw [detect, splitLast?_of_not_mem hcomma, List.contains_iff_mem.2 hpoint]

theorem detect_append {before behind : List Char} (hpoint : '.' ∈ before ++ ',' :: behind)
    (hcomma : ',' ∉ behind) : detect (before ++ ',' :: behind) =
      if behind.contains '.' then english else turkish := by
  rw [detect, splitLast?_append before hcomma, List.contains_iff_mem.2 hpoint]

/-- The comma of a Turkish fraction below one thousand is taken to group thousands. -/
theorem detect_canonical_turkish {behind : Option (List Char)}
    (hbehind : ∀ fraction ∈ behind, IsNumeral fraction) :
    detect (canonical turkish n behind) = if n < 1000 then english else turkish := by
  by_cases hn : n < 1000
  · rw [if_pos hn]
    refine detect_of_no_point ?_
    have hwhole := (isNumeral_toDigits n).not_mem (c := '.') rfl
    cases behind with
    | none => rwa [canonical, grouped_of_lt _ hn]
    | some fraction =>
      rw [canonical, grouped_of_lt _ hn, List.mem_append, List.mem_cons, not_or, not_or]
      exact ⟨hwhole, by decide, (hbehind _ rfl).not_mem rfl⟩
  · have hgroup := grouped_of_le '.' (Nat.not_lt.1 hn)
    have hpoint : '.' ∈ grouped '.' n := by simp [hgroup]
    rw [if_neg hn]
    cases behind with
    | none =>
      have hgroups : impliesDecimal (grouped '.' n) = false := by
        rw [hgroup, impliesDecimal_append _ (isNumeral_lastThree n)]
        exact Bool.and_false _
      exact (detect_of_no_comma hpoint (not_mem_grouped rfl (by decide) n)).trans
        (if_neg (by simp [hgroups]))
    | some fraction =>
      have hfraction := hbehind _ rfl
      exact (detect_append (List.mem_append_left _ hpoint) (hfraction.not_mem rfl)).trans
        (if_neg (by simpa using hfraction.not_mem rfl))

/-- The point of an English fraction of three places below one thousand is taken to group
thousands. -/
theorem detect_canonical_english {behind : Option (List Char)}
    (hbehind : ∀ fraction ∈ behind, IsNumeral fraction) :
    detect (canonical english n behind) =
      if n < 1000 ∧ (behind.getD []).length = 3 then turkish else english := by
  cases behind with
  | none =>
    rw [if_neg (by simp)]
    exact detect_of_no_point (not_mem_grouped rfl (by decide) n)
  | some fraction =>
    have hfraction := hbehind _ rfl
    by_cases hn : n < 1000
    · have hwhole := isNumeral_toDigits n
      have hcomma : ',' ∉ Nat.toDigits 10 n ++ '.' :: fraction := by
        rw [List.mem_append, List.mem_cons, not_or, not_or]
        exact ⟨hwhole.not_mem rfl, by decide, hfraction.not_mem rfl⟩
      have hpoint : (Nat.toDigits 10 n).contains '.' = false := by
        simpa using hwhole.not_mem (c := '.') rfl
      rw [canonical, grouped_of_lt _ hn]
      refine (detect_of_no_comma (by simp) hcomma).trans ?_
      rw [impliesDecimal_append _ hfraction, hpoint]
      by_cases hthree : fraction.length = 3 <;> simp [hn, hthree]
    · have hsplit : canonical english n (some fraction) =
          grouped ',' (n / 1000) ++ ',' :: (lastThree n ++ '.' :: fraction) := by
        rw [canonical, grouped_of_le _ (Nat.not_lt.1 hn), List.append_assoc]
        rfl
      have hcomma : ',' ∉ lastThree n ++ '.' :: fraction := by
        rw [List.mem_append, List.mem_cons, not_or, not_or]
        exact ⟨(isNumeral_lastThree n).not_mem rfl, by decide, hfraction.not_mem rfl⟩
      rw [hsplit, detect_append (by simp) hcomma, if_pos (by simp), if_neg (by simp [hn])]

/-! ## Reading amounts back -/

section ReadingBack

variable {behind : Option (List Char)}

theorem betweenDigits_canonical (seps : Separators) (n : Nat)
    (hbehind : ∀ fraction ∈ behind, IsNumeral fraction) :
    BetweenDigits (canonical seps n behind) := by
  cases behind with
  | none => exact betweenDigits_grouped _ n
  | some fraction => exact (betweenDigits_grouped _ n).append _ (hbehind _ rfl)

theorem ofDigitChars_toDigits_append (n : Nat) (fraction : List Char) :
    Nat.ofDigitChars 10 (Nat.toDigits 10 n ++ fraction) 0 =
      n * 10 ^ fraction.length + Nat.ofDigitChars 10 fraction 0 := by
  rw [Nat.ofDigitChars_append, Nat.ofDigitChars_ten_toDigits,
    Nat.ofDigitChars_eq_ofDigitChars_zero, Nat.mul_comm]

theorem written_toDigits (n : Nat) (fraction : List Char) :
    Decimal.written (Nat.toDigits 10 n) fraction =
      ⟨false, n * 10 ^ fraction.length + Nat.ofDigitChars 10 fraction 0, fraction.length⟩ := by
  rw [Decimal.written, ofDigitChars_toDigits_append]

/-- The amount in the proper form of one convention, read by the separators that it suggests. -/
theorem parse?_auto_eq (seps : Separators) (hbehind : ∀ fraction ∈ behind, IsNumeral fraction) :
    parse? .auto (String.ofList (canonical seps n behind)) =
      parseWith? (detect (canonical seps n behind)) (canonical seps n behind) :=
  (betweenDigits_canonical seps n hbehind).parse?_eq .auto

/-- **A convention reads back what it writes.** -/
theorem parse?_canonical {style : Style} (hstyle : ∀ cs, style.separators cs = seps)
    (hseps : seps.Proper) (hbehind : ∀ fraction ∈ behind, IsNumeral fraction)
    (hlength : (Nat.toDigits 10 n).length + (behind.getD []).length ≤ 28) :
    parse? style (String.ofList (canonical seps n behind)) =
      some (.written (Nat.toDigits 10 n) (behind.getD [])) := by
  rw [(betweenDigits_canonical seps n hbehind).parse?_eq style, hstyle]
  exact parseWith?_canonical hseps hbehind hlength

theorem parse?_auto_turkish (hbehind : ∀ fraction ∈ behind, IsNumeral fraction)
    (hlength : (Nat.toDigits 10 n).length + (behind.getD []).length ≤ 28) :
    parse? .auto (String.ofList (canonical turkish n behind)) = some (if n < 1000
      then .written (Nat.toDigits 10 n ++ behind.getD []) []
      else .written (Nat.toDigits 10 n) (behind.getD [])) := by
  rw [parse?_auto_eq turkish hbehind, detect_canonical_turkish hbehind]
  by_cases hn : n < 1000
  · rw [if_pos hn, if_pos hn]
    cases behind with
    | none =>
      -- Below one thousand a whole amount is written alike in both conventions.
      have hsame : canonical turkish n none = canonical english n none := by
        rw [canonical, canonical, grouped_of_lt _ hn, grouped_of_lt _ hn]
      rw [hsame, parseWith?_canonical english_proper hbehind hlength, Option.getD_none,
        List.append_nil]
    | some fraction =>
      rw [canonical, grouped_of_lt _ hn]
      exact parseWith?_thousands english_proper (hbehind _ rfl) hlength
  · rw [if_neg hn, if_neg hn]
    exact parseWith?_canonical turkish_proper hbehind hlength

theorem parse?_auto_english (hbehind : ∀ fraction ∈ behind, IsNumeral fraction)
    (hlength : (Nat.toDigits 10 n).length + (behind.getD []).length ≤ 28) :
    parse? .auto (String.ofList (canonical english n behind)) =
      some (if n < 1000 ∧ (behind.getD []).length = 3
        then .written (Nat.toDigits 10 n ++ behind.getD []) []
        else .written (Nat.toDigits 10 n) (behind.getD [])) := by
  rw [parse?_auto_eq english hbehind, detect_canonical_english hbehind]
  by_cases hthree : n < 1000 ∧ (behind.getD []).length = 3
  · rw [if_pos hthree, if_pos hthree]
    cases behind with
    | none => exact absurd hthree.2 (by decide)
    | some fraction =>
      rw [canonical, grouped_of_lt _ hthree.1]
      exact parseWith?_thousands turkish_proper (hbehind _ rfl) hlength
  · rw [if_neg hthree, if_neg hthree]
    exact parseWith?_canonical english_proper hbehind hlength

/-- **Without a convention, amounts are read back but for two kinds of fractions below one
thousand.** The digits always count in full. The places of the fraction are lost, so that its
digits lengthen the whole part, where a comma stands alone, and where a point stands alone before
three digits. All other amounts are read as by the convention that wrote them. -/
theorem parse?_auto_canonical (n : Nat) (hbehind : ∀ fraction ∈ behind, IsNumeral fraction)
    (hlength : (Nat.toDigits 10 n).length + (behind.getD []).length ≤ 28) :
    let fraction := behind.getD []
    let units := n * 10 ^ fraction.length + Nat.ofDigitChars 10 fraction 0
    let amount := fun seps => String.ofList (canonical seps n behind)
    parse? .auto (amount turkish) =
        some ⟨false, units, if n < 1000 then 0 else fraction.length⟩ ∧
      parse? .auto (amount english) =
        some ⟨false, units, if n < 1000 ∧ fraction.length = 3 then 0 else fraction.length⟩ ∧
      (¬ (n < 1000 ∧ behind.isSome) →
        parse? .auto (amount turkish) = parse? .turkish (amount turkish)) ∧
      (¬ (n < 1000 ∧ fraction.length = 3) →
        parse? .auto (amount english) = parse? .english (amount english)) := by
  intro fraction units amount
  have hlost : Decimal.written (Nat.toDigits 10 n ++ fraction) [] = ⟨false, units, 0⟩ := by
    rw [Decimal.written, List.append_nil, ofDigitChars_toDigits_append]
    rfl
  have hkept : Decimal.written (Nat.toDigits 10 n) fraction = ⟨false, units, fraction.length⟩ :=
    written_toDigits n fraction
  have hturkish := parse?_auto_turkish hbehind hlength
  have henglish := parse?_auto_english hbehind hlength
  refine ⟨?_, ?_, fun h => ?_, fun h => ?_⟩
  · rw [hturkish, hlost, hkept]
    split <;> rfl
  · rw [henglish, hlost, hkept]
    split <;> rfl
  · rw [hturkish, parse?_canonical (fun _ => rfl) turkish_proper hbehind hlength]
    split
    · rename_i hn
      cases hbehind' : behind with
      | none => simp
      | some f => exact absurd ⟨hn, by simp [hbehind']⟩ h
    · rfl
  · rw [henglish, parse?_canonical (fun _ => rfl) english_proper hbehind hlength, if_neg h]

/-- A fraction above one thousand, and one of three places below. -/
theorem parse?_auto_canonical_above_below :
    parse? .auto "1.234.567,50" = some ⟨false, 123456750, 2⟩ ∧
      parse? .auto "1.234.567,50" = parse? .turkish "1.234.567,50" ∧
      parse? .auto "12.125" = some ⟨false, 12125, 0⟩ := by
  have hnumeral : ∀ fraction ∈ some ['5', '0'], IsNumeral fraction := by
    simp [IsNumeral, AllDigits]
  have hthree : ∀ fraction ∈ some ['1', '2', '5'], IsNumeral fraction := by
    simp [IsNumeral, AllDigits]
  have habove := parse?_auto_canonical 1234567 hnumeral (by decide)
  have hbelow := parse?_auto_canonical 12 hthree (by decide)
  have hturkish :
      String.ofList (canonical turkish 1234567 (some ['5', '0'])) = "1.234.567,50" := by cbv
  have henglish : String.ofList (canonical english 12 (some ['1', '2', '5'])) = "12.125" := by cbv
  refine ⟨hturkish ▸ habove.1, hturkish ▸ habove.2.2.1 (by decide), henglish ▸ hbelow.2.1⟩

end ReadingBack

end PolicyFields.Amount
