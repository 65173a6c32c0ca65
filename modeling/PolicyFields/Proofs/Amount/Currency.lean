import PolicyFields.Proofs.Amount.Grouped
import PolicyFields.Proofs.Text.Trimming

/-!
# Currency behind amounts

Some currency suffixes end with others, and what one has before another is a space, or it ends with
a point or a minus. Behind a digit, with or without blanks between them, no more is taken off than
the suffix and blanks.

* `exists_first_ending` — the suffix that is found ends with the one that stands there.
* `stripCurrencyChars_append` — **a suffix is taken off in full, and nothing else**.
* `parse?_suffixed` — **an amount is read alike with and without currency**.
-/

namespace PolicyFields.Amount

open Text (AllBlank Trimmed trimChars)

variable {cs ds core blanks ending front : List Char} {s : String}

/-! ## The suffixes -/

theorem dropEnding?_append (cs ending : List Char) :
    dropEnding? ending (cs ++ ending) = some cs := by
  rw [dropEnding?, if_pos (List.isSuffixOf_iff_suffix.2 (List.suffix_append _ _)),
    List.length_append, Nat.add_sub_cancel, List.take_left]

theorem exists_of_dropEnding? (h : dropEnding? ending cs = some ds) : cs = ds ++ ending := by
  unfold dropEnding? at h
  split at h
  · rename_i hsuffix
    obtain ⟨before, rfl⟩ := List.isSuffixOf_iff_suffix.1 hsuffix
    obtain rfl := Option.some.inj h
    rw [List.length_append, Nat.add_sub_cancel, List.take_left]
  · cases h

/-- No suffix ends with one that is tried before it. -/
theorem currencySuffixes_ordered : currencySuffixes.Pairwise fun e e' => ¬ e <:+ e' := by decide

theorem isBlank_last_currencySuffix (h : ending ∈ currencySuffixes) :
    ∃ c ∈ ending.getLast?, Text.isBlank c = false := by
  have hall : ∀ e ∈ currencySuffixes, e.getLast?.any (fun c => !Text.isBlank c) = true := by decide
  obtain ⟨c, hc, hblank⟩ := (Option.any_eq_true _ _).1 (hall ending h)
  exact ⟨c, hc, by simpa using hblank⟩

/-- What one suffix has before another consists of blanks, or it ends with a point or a minus. -/
theorem before_currencySuffix (hlong : front ++ ending ∈ currencySuffixes)
    (hending : ending ∈ currencySuffixes) :
    AllBlank front ∨ front.getLast? = some '.' ∨ front.getLast? = some '-' := by
  have hall : ∀ e ∈ currencySuffixes, ∀ e' ∈ currencySuffixes, ∀ before ∈ dropEnding? e' e,
      before.all Text.isBlank = true ∨ before.getLast? = some '.' ∨
        before.getLast? = some '-' := by
    decide
  refine (hall _ hlong _ hending front (dropEnding?_append front ending)).imp_left fun h => ?_
  exact List.all_eq_true.1 h

/-- **The suffix that is found ends with the one that stands there**: whichever is found first also
fits, and no suffix ends with one before it. -/
theorem exists_first_ending (hending : ending ∈ currencySuffixes) (cs : List Char) :
    ∃ before front, cs = before ++ front ∧ front ++ ending ∈ currencySuffixes ∧
      currencySuffixes.findSome? (fun e => dropEnding? e (cs ++ ending)) = some before := by
  obtain ⟨before, hfound⟩ : ∃ before,
      currencySuffixes.findSome? (fun e => dropEnding? e (cs ++ ending)) = some before := by
    refine Option.isSome_iff_exists.1 (List.findSome?_isSome_iff.2 ⟨ending, hending, ?_⟩)
    rw [dropEnding?_append]
    rfl
  obtain ⟨tried, e, others, htable, hdrop, htried⟩ := List.findSome?_eq_some_iff.1 hfound
  have hsplit : cs ++ ending = before ++ e := exists_of_dropEnding? hdrop
  have hmem : e ∈ currencySuffixes := by rw [htable]; simp
  rcases List.suffix_or_suffix_of_suffix (hsplit ▸ List.suffix_append before e)
    (List.suffix_append cs ending) with hshort | ⟨front, hlong⟩
  · -- Then it is that very one: the other would have been found before it.
    have hsame : e = ending := by
      have hplace : ending ∈ tried ++ e :: others := htable ▸ hending
      rcases List.mem_append.1 hplace with h | h
      · have hnone := htried ending h
        rw [dropEnding?_append] at hnone
        cases hnone
      · rcases List.mem_cons.1 h with h | h
        · exact h.symm
        · have hordered := currencySuffixes_ordered
          rw [htable, List.pairwise_append, List.pairwise_cons] at hordered
          exact absurd hshort (hordered.2.1.1 ending h)
    subst hsame
    exact ⟨before, [], by simpa using hsplit, hmem, hfound⟩
  · refine ⟨before, front, ?_, hlong ▸ hmem, hfound⟩
    rw [← hlong, ← List.append_assoc] at hsplit
    exact List.append_cancel_right hsplit

/-! ## Behind a digit -/

theorem BetweenDigits.trimmed (h : BetweenDigits cs) : Trimmed cs := by
  obtain ⟨⟨d, hd, hfirst⟩, e, he, hlast⟩ := h
  refine ⟨List.ne_nil_of_mem (List.mem_of_mem_head? hd), fun c hc => ?_, fun c hc => ?_⟩
  · exact Option.mem_unique hd hc ▸ isBlank_of_isDigit hfirst
  · exact Option.mem_unique he hc ▸ isBlank_of_isDigit hlast

theorem trimmed_before_ending (hcore : Trimmed core) (blanks : List Char)
    (hending : ending ∈ currencySuffixes) : Trimmed (core ++ blanks ++ ending) := by
  obtain ⟨e, he, hblank⟩ := isBlank_last_currencySuffix hending
  refine ⟨by simp [hcore.ne_nil], fun c hc => ?_, fun c hc => ?_⟩
  · rw [List.append_assoc, List.head?_append_of_ne_nil _ hcore.ne_nil] at hc
    exact hcore.head c hc
  · rw [List.getLast?_append, Option.mem_def.1 he, Option.some_or] at hc
    exact Option.some.inj hc ▸ hblank

/-- A digit followed by blanks does not end with a point or a minus. -/
theorem isDigit_or_isBlank_last (hlast : ∃ d ∈ core.getLast?, d.isDigit = true)
    (hblanks : AllBlank blanks) {c : Char} (hc : (core ++ blanks).getLast? = some c) :
    c.isDigit = true ∨ Text.isBlank c = true := by
  rw [List.getLast?_append] at hc
  cases hback : blanks.getLast? with
  | none =>
    obtain ⟨d, hd, hdigit⟩ := hlast
    rw [hback, Option.none_or, Option.mem_def.1 hd] at hc
    exact .inl (Option.some.inj hc ▸ hdigit)
  | some b =>
    rw [hback, Option.some_or] at hc
    exact .inr (Option.some.inj hc ▸ hblanks b (List.mem_of_getLast? hback))

/-- **A suffix is taken off in full, and nothing else** but blanks. -/
theorem stripCurrencyChars_append (hcore : Trimmed core)
    (hlast : ∃ d ∈ core.getLast?, d.isDigit = true) (hblanks : AllBlank blanks)
    (hending : ending ∈ currencySuffixes) :
    stripCurrencyChars (core ++ blanks ++ ending) = core := by
  obtain ⟨before, front, hsplit, hlong, hfound⟩ := exists_first_ending hending (core ++ blanks)
  rw [stripCurrencyChars, (trimmed_before_ending hcore blanks hending).trimChars_eq, hfound]
  dsimp only
  have hfront : AllBlank front := by
    rcases before_currencySuffix hlong hending with h | h | h
    · exact h
    all_goals
      have hend : (core ++ blanks).getLast? = front.getLast? := by
        rw [hsplit, List.getLast?_append, h, Option.some_or]
      exact absurd (isDigit_or_isBlank_last hlast hblanks (hend.trans h)) (by decide)
  rw [← Text.trimChars_append_right hfront, ← hsplit, Text.trimChars_append_right hblanks,
    hcore.trimChars_eq]

theorem stripCurrencyChars_trimChars (cs : List Char) :
    stripCurrencyChars (trimChars cs) = stripCurrencyChars cs := by
  rw [stripCurrencyChars, Text.trimChars_trimChars, stripCurrencyChars]

/-- Without a suffix there is nothing to take off. -/
theorem stripCurrencyChars_eq_self (hcore : Trimmed core)
    (hlast : ∃ d ∈ core.getLast?, d.isDigit = true) : stripCurrencyChars core = core := by
  rw [stripCurrencyChars, hcore.trimChars_eq, findSome?_dropEnding?_eq_none hlast]

/-- A text that ends with a digit ends with it when it is trimmed. -/
theorem exists_trimmed (hlast : ∃ d ∈ cs.getLast?, d.isDigit = true) :
    ∃ first core, AllBlank first ∧ Trimmed core ∧ cs = first ++ core ∧
      ∃ d ∈ core.getLast?, d.isDigit = true := by
  obtain ⟨d, hd, hdigit⟩ := hlast
  obtain ⟨first, last, hfirst, hback, hcs⟩ := Text.exists_blanks cs
  have hnotBlank {blanks : List Char} (h : AllBlank blanks) : d ∉ blanks.getLast? := fun hmem =>
    Bool.noConfusion ((isBlank_of_isDigit hdigit).symm.trans (h d (List.mem_of_getLast? hmem)))
  have hnil : last = [] := by
    by_contra hne
    rw [hcs, List.getLast?_append_of_ne_nil _ hne] at hd
    exact hnotBlank hback hd
  rw [hnil, List.append_nil] at hcs
  have hne : trimChars cs ≠ [] := by
    intro hempty
    rw [hempty, List.append_nil] at hcs
    exact hnotBlank hfirst (hcs ▸ hd)
  refine ⟨first, trimChars cs, hfirst, Text.trimmed_trimChars hne, hcs, d, ?_, hdigit⟩
  rw [hcs, List.getLast?_append_of_ne_nil _ hne] at hd
  exact hd

/-- **An amount is read alike with and without currency.** Behind a digit each suffix is taken off
in full, whatever blanks stand before it and behind it, so that the amount is left as it would be
alone. -/
theorem parse?_suffixed {w w' u : String} (hs : ∃ d ∈ s.toList.getLast?, d.isDigit = true)
    (hw : AllBlank w.toList) (hw' : AllBlank w'.toList)
    (hu : u ∈ [" TL", ".-TL", "-TL", "TL", ".-", "-"]) :
    stripCurrency (s ++ w ++ u ++ w') = Text.trim s ∧
      ∀ style, parse? style (s ++ w ++ u ++ w') = parse? style s := by
  have hending : u.toList ∈ currencySuffixes :=
    (by decide : ∀ u ∈ [" TL", ".-TL", "-TL", "TL", ".-", "-"], u.toList ∈ currencySuffixes) u hu
  obtain ⟨first, core, hfirst, hcore, hsplit, hlast⟩ := exists_trimmed hs
  have hbare : trimChars s.toList = core := by
    rw [hsplit, Text.trimChars_append_left hfirst, hcore.trimChars_eq]
  have htrim : trimChars (s ++ w ++ u ++ w').toList = core ++ w.toList ++ u.toList := by
    have happend : (s ++ w ++ u ++ w').toList =
        first ++ (core ++ w.toList ++ u.toList) ++ w'.toList := by
      simp only [String.toList_append, hsplit, List.append_assoc]
    rw [happend, Text.trimChars_append hfirst (trimmed_before_ending hcore _ hending) hw']
  have hstrip : stripCurrencyChars (trimChars (s ++ w ++ u ++ w').toList) = core := by
    rw [htrim, stripCurrencyChars_append hcore hlast hw hending]
  refine ⟨?_, fun style => ?_⟩
  · rw [stripCurrency, ← stripCurrencyChars_trimChars, hstrip, Text.trim, hbare]
  · obtain ⟨d, hd, hdigit⟩ := hlast
    have hmem : d ∈ core := List.mem_of_getLast? hd
    have hpresent : isMissing s = false := isMissing_of_digit hdigit (hbare ▸ hmem)
    have hpresent' : isMissing (s ++ w ++ u ++ w') = false :=
      isMissing_of_digit hdigit (htrim ▸ List.mem_append_left _ (List.mem_append_left _ hmem))
    have hsame : stripCurrency (Text.trim (s ++ w ++ u ++ w')) = stripCurrency (Text.trim s) := by
      rw [← String.toList_inj, toList_stripCurrency_trim, toList_stripCurrency_trim, hstrip, hbare,
        stripCurrencyChars_eq_self hcore ⟨d, hd, hdigit⟩]
    rw [parse?_eq style hpresent, parse?_eq style hpresent', hsame]

/-- A space that is taken for a part of the suffix, and an amount that no convention reads. -/
theorem parse?_suffixed_two :
    stripCurrency " 1.234,5 \t TL\n" = "1.234,5" ∧
      parse? .auto " 1.234,5 \t TL\n" = some ⟨false, 12345, 1⟩ ∧
      ∀ style, parse? style "2-3\u00a0.-TL" = none := by
  have hspaced := @parse?_suffixed " 1.234,5" " \t " "\n" "TL" ⟨'5', by decide, by decide⟩
    (List.all_eq_true.1 (by decide)) (List.all_eq_true.1 (by decide)) (by decide)
  have hbroken := @parse?_suffixed "2-3" "\u00a0" "" ".-TL" ⟨'3', by decide, by decide⟩
    (List.all_eq_true.1 (by decide)) (List.all_eq_true.1 (by decide)) (by decide)
  refine ⟨hspaced.1.trans (by decide), (hspaced.2 .auto).trans (by decide), fun style => ?_⟩
  refine (hbroken.2 style).trans ?_
  cases style <;> decide

end PolicyFields.Amount
