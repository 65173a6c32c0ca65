import Mathlib.Data.List.Basic
import PolicyFields.Proofs.Text.Trimming

/-!
# Words

* `IsWord`, `HasWords` — texts without blanks, and the maximal ones that stand in a text, in order.
* `hasWords_iff` — **every text has its words**, and no others.
* `HasWords.stripChars_eq`, `collapseChars_eq_intercalate` — the words joined by nothing and by
  single spaces.
* `words_intercalate` — words joined by spaces are found again.
* `collapse_strip_words` — **collapsing and stripping keep the words and nothing else**.
-/

namespace PolicyFields.Text

variable {cs first rest w : List Char} {ws : List (List Char)} {c : Char}

/-- Something without blanks. -/
structure IsWord (w : List Char) : Prop where
  ne_nil : w ≠ []
  no_blank : ∀ c ∈ w, isBlank c = false

/-- The maximal runs of characters that are not blank, in order: each stands behind blanks only, and
a blank or the end of the text follows. -/
inductive HasWords : List Char → List (List Char) → Prop
  | blanks {cs : List Char} : AllBlank cs → HasWords cs []
  | word {first w rest : List Char} {ws : List (List Char)} :
    AllBlank first → IsWord w → (∀ c ∈ rest.head?, isBlank c = true) → HasWords rest ws →
    HasWords (first ++ w ++ rest) (w :: ws)

/-! ## The words of a text -/

theorem AllBlank.cons (hc : isBlank c = true) (h : AllBlank cs) : AllBlank (c :: cs) :=
  List.forall_mem_cons.2 ⟨hc, h⟩

theorem HasWords.isWord (h : HasWords cs ws) : ∀ w ∈ ws, IsWord w := by
  induction h with
  | blanks => exact fun _ hw => absurd hw List.not_mem_nil
  | word _ hw _ _ ih => exact List.forall_mem_cons.2 ⟨hw, ih⟩

theorem HasWords.allBlank (h : HasWords cs []) : AllBlank cs := by
  cases h with
  | blanks hall => exact hall

/-- A blank in front is in no word. -/
theorem HasWords.cons_blank (hc : isBlank c = true) (h : HasWords cs ws) :
    HasWords (c :: cs) ws := by
  cases h with
  | blanks hall => exact .blanks (hall.cons hc)
  | word hfirst hw hrest h => exact .word (hfirst.cons hc) hw hrest h

/-- A character in front of a blank, or of nothing, is a word of its own. -/
theorem HasWords.cons_alone (hc : isBlank c = false) (hcs : ∀ d ∈ cs.head?, isBlank d = true)
    (h : HasWords cs ws) : HasWords (c :: cs) ([c] :: ws) := by
  have hw : IsWord [c] := ⟨List.cons_ne_nil c [], by simpa using hc⟩
  exact @HasWords.word [] [c] cs ws (fun _ hd => absurd hd List.not_mem_nil) hw hcs h

/-- A character in front of another that is not blank belongs to the same word. -/
theorem HasWords.cons_join {d : Char} (hc : isBlank c = false) (hd : isBlank d = false)
    (h : HasWords (d :: cs) ws) :
    ∃ w others, ws = w :: others ∧ HasWords (c :: d :: cs) ((c :: w) :: others) := by
  generalize hds : d :: cs = ds at h
  cases h with
  | blanks hall =>
    rw [hall d (hds ▸ List.mem_cons_self)] at hd
    cases hd
  | @word first w rest others hfirst hw hrest h =>
    cases first with
    | nil =>
      have hcw : IsWord (c :: w) :=
        ⟨List.cons_ne_nil c w, List.forall_mem_cons.2 ⟨hc, hw.no_blank⟩⟩
      exact ⟨w, others, rfl, @HasWords.word [] (c :: w) rest others hfirst hcw hrest h⟩
    | cons b first =>
      obtain ⟨rfl, -⟩ := List.cons.inj hds
      rw [hfirst d List.mem_cons_self] at hd
      cases hd

theorem words_nil : words [] = [] := rfl

theorem words_cons_blank (hc : isBlank c = true) (cs : List Char) : words (c :: cs) = words cs := by
  rw [words.eq_def]
  simp only [hc, if_true]

theorem words_cons_alone (hc : isBlank c = false) (hcs : ∀ d ∈ cs.head?, isBlank d = true) :
    words (c :: cs) = [c] :: words cs := by
  rw [words.eq_def]
  cases cs with
  | nil => simp only [hc, Bool.false_eq_true, if_false, words_nil]
  | cons d r => simp only [hc, hcs d rfl, Bool.false_eq_true, if_false, if_true]

theorem words_cons_join {d : Char} (hc : isBlank c = false) (hd : isBlank d = false)
    (h : words (d :: cs) = w :: ws) : words (c :: d :: cs) = (c :: w) :: ws := by
  rw [words.eq_def]
  simp only [hc, hd, Bool.false_eq_true, if_false, h]

theorem hasWords_words (cs : List Char) : HasWords cs (words cs) := by
  induction cs with
  | nil => exact .blanks fun _ hc => absurd hc List.not_mem_nil
  | cons c r ih =>
    cases hc : isBlank c with
    | true =>
      rw [words_cons_blank hc]
      exact ih.cons_blank hc
    | false =>
      cases r with
      | nil =>
        rw [words_cons_alone hc (by simp)]
        exact ih.cons_alone hc (by simp)
      | cons d r =>
        cases hd : isBlank d with
        | true =>
          have hhead : ∀ e ∈ (d :: r).head?, isBlank e = true := by simpa using hd
          rw [words_cons_alone hc hhead]
          exact ih.cons_alone hc hhead
        | false =>
          obtain ⟨w, others, hws, h⟩ := ih.cons_join hc hd
          rw [words_cons_join hc hd hws]
          exact h

/-- Blanks in front make no difference. -/
theorem words_append_of_allBlank (hfirst : AllBlank first) (cs : List Char) :
    words (first ++ cs) = words cs := by
  induction first with
  | nil => rfl
  | cons c first ih =>
    obtain ⟨hc, hfirst⟩ := List.forall_mem_cons.1 hfirst
    rw [List.cons_append, words_cons_blank hc, ih hfirst]

/-- A word in front of a blank, or of nothing, is the first word. -/
theorem words_append_of_isWord (hw : IsWord w) (hrest : ∀ c ∈ rest.head?, isBlank c = true) :
    words (w ++ rest) = w :: words rest := by
  obtain ⟨hne, hall⟩ := hw
  induction w with
  | nil => exact absurd rfl hne
  | cons c w ih =>
    obtain ⟨hc, hall⟩ := List.forall_mem_cons.1 hall
    cases w with
    | nil => exact words_cons_alone hc hrest
    | cons d w =>
      exact words_cons_join hc (hall d List.mem_cons_self) (ih (List.cons_ne_nil d w) hall)

/-- **Every text has its words**, and no others. -/
theorem hasWords_iff : HasWords cs ws ↔ ws = words cs := by
  refine ⟨fun h => ?_, fun h => h ▸ hasWords_words cs⟩
  induction h with
  | blanks hall =>
    have hnone := words_append_of_allBlank hall []
    rw [List.append_nil] at hnone
    rw [hnone, words_nil]
  | word hfirst hw hrest _ ih =>
    rw [List.append_assoc, words_append_of_allBlank hfirst, words_append_of_isWord hw hrest, ih]

/-! ## Joined by nothing -/

theorem stripChars_of_allBlank (h : AllBlank cs) : stripChars cs = [] :=
  List.filter_eq_nil_iff.2 fun c hc => by simp [h c hc]

theorem stripChars_of_isWord (h : IsWord w) : stripChars w = w :=
  List.filter_eq_self.2 fun c hc => by simp [h.no_blank c hc]

/-- **What is left without blanks is the words joined by nothing.** -/
theorem HasWords.stripChars_eq (h : HasWords cs ws) : stripChars cs = ws.flatten := by
  induction h with
  | blanks hall => exact stripChars_of_allBlank hall
  | word hfirst hw _ _ ih =>
    rw [stripChars, List.filter_append, List.filter_append, ← stripChars, ← stripChars,
      ← stripChars, stripChars_of_allBlank hfirst, stripChars_of_isWord hw, ih]
    rfl

/-! ## Joined by spaces -/

/-- Inside a run of blanks the rest of the run is left out. -/
theorem squeezeFrom_true_append (hfirst : AllBlank first) (cs : List Char) :
    squeezeFrom true (first ++ cs) = squeezeFrom true cs := by
  induction first with
  | nil => rfl
  | cons c first ih =>
    obtain ⟨hc, hfirst⟩ := List.forall_mem_cons.1 hfirst
    rw [List.cons_append, squeezeFrom, if_pos hc, if_pos rfl, ih hfirst]

/-- A word is kept, whatever stands before it. -/
theorem squeezeFrom_append_of_isWord (hw : IsWord w) (inRun : Bool) (cs : List Char) :
    squeezeFrom inRun (w ++ cs) = w ++ squeezeFrom false cs := by
  obtain ⟨hne, hall⟩ := hw
  induction w generalizing inRun with
  | nil => exact absurd rfl hne
  | cons c w ih =>
    obtain ⟨hc, hall⟩ := List.forall_mem_cons.1 hall
    rw [List.cons_append, squeezeFrom, if_neg (ne_true_of_eq_false hc), List.cons_append]
    cases w with
    | nil => rfl
    | cons d w => rw [ih false (List.cons_ne_nil d w) hall]

/-- Behind a blank, and with no blank at the end, the words are joined by single spaces. -/
theorem HasWords.squeezeFrom_eq (h : HasWords cs ws)
    (hlast : ∀ c ∈ cs.getLast?, isBlank c = false) :
    squeezeFrom true cs = [' '].intercalate ws := by
  induction h with
  | blanks hall =>
    have hnone := squeezeFrom_true_append hall []
    rw [List.append_nil] at hnone
    rw [hnone, squeezeFrom, List.intercalate_nil]
  | @word first w rest ws hfirst hw hrest h ih =>
    rw [List.append_assoc, squeezeFrom_true_append hfirst, squeezeFrom_append_of_isWord hw]
    cases rest with
    | nil =>
      obtain rfl : ws = [] := hasWords_iff.1 h
      rw [List.intercalate_singleton, squeezeFrom, List.append_nil]
    | cons b rest =>
      have hb : isBlank b = true := hrest b rfl
      rw [List.getLast?_append_of_ne_nil _ (List.cons_ne_nil b rest)] at hlast
      -- The text does not end in blanks, so another word follows.
      have hws : ws ≠ [] := by
        rintro rfl
        have hend := List.getLast?_eq_some_getLast (List.cons_ne_nil b rest)
        have hblank := h.allBlank _ (List.mem_of_getLast? hend)
        exact Bool.noConfusion (hblank.symm.trans (hlast _ hend))
      have hrun : squeezeFrom false (b :: rest) = ' ' :: squeezeFrom true (b :: rest) := by
        rw [squeezeFrom, squeezeFrom, if_pos hb, if_pos hb, if_neg Bool.false_ne_true, if_pos rfl]
      rw [List.intercalate_cons_of_ne_nil hws, hrun, ih hlast, List.append_assoc,
        List.singleton_append]

/-- A text that does not begin with a blank is read as if one stood before it. -/
theorem squeezeFrom_of_head? (h : ∀ c ∈ cs.head?, isBlank c = false) (inRun : Bool) :
    squeezeFrom inRun cs = squeezeFrom true cs := by
  cases cs with
  | nil => rw [squeezeFrom, squeezeFrom]
  | cons c r =>
    have hc : isBlank c ≠ true := ne_true_of_eq_false (h c rfl)
    rw [squeezeFrom, squeezeFrom, if_neg hc, if_neg hc]

/-- Blanks behind make no difference. -/
theorem HasWords.append_of_allBlank {last : List Char} (h : HasWords cs ws)
    (hlast : AllBlank last) :
    HasWords (cs ++ last) ws := by
  induction h with
  | blanks hall =>
    exact .blanks fun c hc => (List.mem_append.1 hc).elim (hall c) (hlast c)
  | @word first w rest ws hfirst hw hrest _ ih =>
    rw [List.append_assoc]
    refine .word hfirst hw (fun c hc => ?_) ih
    cases rest with
    | nil => exact hlast c (List.mem_of_mem_head? hc)
    | cons b rest => exact hrest c hc

/-- Trimming keeps the words. -/
theorem words_trimChars (cs : List Char) : words (trimChars cs) = words cs := by
  obtain ⟨first, last, hfirst, hlast, hcs⟩ := exists_blanks cs
  have hkept := (hasWords_words (trimChars cs)).append_of_allBlank hlast
  have hall : words cs = words (trimChars cs ++ last) := by
    conv_lhs => rw [hcs, List.append_assoc, words_append_of_allBlank hfirst]
  rw [hall, hasWords_iff.1 hkept]

/-- **A collapsed text is the words joined by single spaces.** -/
theorem collapseChars_eq_intercalate (cs : List Char) :
    collapseChars cs = [' '].intercalate (words cs) := by
  rw [collapseChars, squeezeFrom_of_head? fun _ => isBlank_head?_trimChars, ← words_trimChars cs]
  exact (hasWords_words _).squeezeFrom_eq fun _ => isBlank_getLast?_trimChars

/-- Words joined by spaces are found again. -/
theorem words_intercalate (hws : ∀ w ∈ ws, IsWord w) : words ([' '].intercalate ws) = ws := by
  induction ws with
  | nil => rfl
  | cons w ws ih =>
    obtain ⟨hw, hws⟩ := List.forall_mem_cons.1 hws
    cases ws with
    | nil =>
      have hone : words (w ++ []) = [w] := words_append_of_isWord hw (by simp)
      rw [List.append_nil] at hone
      rw [List.intercalate_singleton, hone]
    | cons second ws =>
      rw [List.intercalate_cons_cons, List.append_assoc, List.singleton_append,
        words_append_of_isWord hw (by simp [isBlank_space]), words_cons_blank isBlank_space,
        ih hws]

theorem words_collapseChars (cs : List Char) : words (collapseChars cs) = words cs := by
  rw [collapseChars_eq_intercalate, words_intercalate (hasWords_words cs).isWord]

/-- **Collapsing and stripping keep the words and nothing else.** The words of a text are its
maximal runs of characters that are not blank. Collapsed, a text is its words joined by single
spaces; stripped, it is the same words joined by nothing. So collapsing a second time changes
nothing, stripping does not see whether a text is collapsed, and two texts collapse alike exactly if
they have the same words. -/
theorem collapse_strip_words (s : String) :
    (∀ ws, HasWords s.toList ws ↔ ws = words s.toList) ∧
    collapse s = " ".intercalate ((words s.toList).map String.ofList) ∧
    strip s = String.join ((words s.toList).map String.ofList) ∧
    collapse (collapse s) = collapse s ∧
    strip (collapse s) = strip s ∧
    ∀ t : String, collapse s = collapse t ↔ words s.toList = words t.toList := by
  have hcollapse (t : String) :
      collapse t = String.ofList ([' '].intercalate (words t.toList)) := by
    rw [collapse, collapseChars_eq_intercalate]
  have hstrip (t : String) : strip t = String.ofList (words t.toList).flatten := by
    rw [strip, (hasWords_words t.toList).stripChars_eq]
  have hwords (t : String) : words (collapse t).toList = words t.toList := by
    rw [collapse, String.toList_ofList, words_collapseChars]
  refine ⟨fun ws => hasWords_iff, ?_, ?_, ?_, ?_, fun t => ⟨fun h => ?_, fun h => ?_⟩⟩
  · rw [hcollapse, ← String.toList_inj, String.toList_intercalate]
    simp [Function.comp_def]
  · rw [hstrip, ← String.toList_inj, String.toList_join]
    simp [List.flatMap_map, List.flatMap_id']
  · rw [hcollapse, hwords, ← hcollapse]
  · rw [hstrip, hwords, ← hstrip]
  · rw [← hwords s, ← hwords t, h]
  · rw [hcollapse, hcollapse, h]

/-- Runs of several kinds of blanks, at the ends too. -/
example : collapse "  Deprem \n\u00a0 Sigortası\u2003" = "Deprem Sigortası" ∧
    strip "  Deprem \n\u00a0 Sigortası\u2003" = "DepremSigortası" := by decide

end PolicyFields.Text
