import Mathlib.Algebra.BigOperators.Group.List.Basic
import Mathlib.Algebra.GroupWithZero.Nat
import PolicyFields.Company
import PolicyFields.Proofs.Text.Lower

/-!
# Which company is recognized

* `IsEarliestBest` — an entry of a table with a positive score that no later entry exceeds and no
  earlier one reaches.
* `detect?_earliest` — **detection picks the earliest best entry**, and nothing iff every score is
  zero; entries that are not picked may be left out, and others may follow.
* `ReachesOver`, `occurrences_append` — occurrences on two sides of a character add up if none
  reaches over it, as none does if the name does not have the character.
* `scores_lines` — **scores add up over the lines of a text**, so that detection does not depend on
  the order of its parts.
-/

namespace PolicyFields.Company

/-- How often the names of a company occur in a text. -/
def scoreIn (c : Company) (text : String) : Nat := c.score (Text.lowerChars text.toList)

theorem scores_eq (cs : List Company) (text : String) :
    scores cs text = cs.map fun c => (c.id, c.scoreIn text) := rfl

/-! ## The earliest best entry -/

section Earliest

variable {cs before after : List Company} {k c : Company} {text : String}

/-- Among some entries, `k` stands behind `before` and in front of `after`, and it is the first of
those with the greatest score, which is positive. -/
structure IsEarliestBest (text : String) (before : List Company) (k : Company)
    (after : List Company) : Prop where
  pos : 0 < k.scoreIn text
  before_lt : ∀ c ∈ before, c.scoreIn text < k.scoreIn text
  after_le : ∀ c ∈ after, c.scoreIn text ≤ k.scoreIn text

theorem IsEarliestBest.le (h : IsEarliestBest text before k after)
    (hc : c ∈ before ++ k :: after) : c.scoreIn text ≤ k.scoreIn text := by
  rcases List.mem_append.1 hc with hc | hc
  · exact Nat.le_of_lt (h.before_lt c hc)
  · rcases List.mem_cons.1 hc with rfl | hc
    · exact Nat.le_refl _
    · exact h.after_le c hc

/-- The better of the best so far and the next score; the first score must be positive. -/
def better : Option (String × Nat) → String × Nat → Option (String × Nat)
  | none, s => if 0 < s.2 then some s else none
  | some best, s => some (if best.2 < s.2 then s else best)

theorem bestOf_cons (best : Option (String × Nat)) (s : String × Nat) (r : List (String × Nat)) :
    bestOf best (s :: r) = bestOf (better best s) r := by
  cases best <;> rfl

/-- What is known of the best so far: the entries passed all have the score zero, or one of them is
the earliest best of them. -/
inductive BestSoFar (text : String) : List Company → Option (String × Nat) → Prop
  | unscored {passed : List Company} :
    (∀ c ∈ passed, c.scoreIn text = 0) → BestSoFar text passed none
  | scored {before after : List Company} {k : Company} : IsEarliestBest text before k after →
    BestSoFar text (before ++ k :: after) (some (k.id, k.scoreIn text))

/-- One more entry. -/
theorem BestSoFar.next {passed : List Company} {best : Option (String × Nat)}
    (h : BestSoFar text passed best) (c : Company) :
    BestSoFar text (passed ++ [c]) (better best (c.id, c.scoreIn text)) := by
  unfold better
  cases h with
  | unscored hzero =>
    dsimp only
    split
    · rename_i hpos
      refine .scored ⟨hpos, fun d hd => ?_, fun d hd => absurd hd List.not_mem_nil⟩
      rwa [hzero d hd]
    · rename_i hpos
      refine .unscored fun d hd => ?_
      rcases List.mem_append.1 hd with hd | hd
      · exact hzero d hd
      · obtain rfl := List.mem_singleton.1 hd
        exact Nat.eq_zero_of_not_pos hpos
  | scored hk =>
    dsimp only
    split
    · rename_i hmore
      refine .scored ⟨Nat.zero_lt_of_lt hmore, fun d hd => ?_,
        fun d hd => absurd hd List.not_mem_nil⟩
      exact Nat.lt_of_le_of_lt (hk.le hd) hmore
    · rename_i hmore
      rw [List.append_assoc, List.cons_append]
      refine .scored ⟨hk.pos, hk.before_lt, fun d hd => ?_⟩
      rcases List.mem_append.1 hd with hd | hd
      · exact hk.after_le d hd
      · obtain rfl := List.mem_singleton.1 hd
        exact Nat.le_of_not_lt hmore

/-- All the other entries. -/
theorem BestSoFar.bestOf {passed rest : List Company} {best : Option (String × Nat)}
    (h : BestSoFar text passed best) :
    BestSoFar text (passed ++ rest) (bestOf best (scores rest text)) := by
  induction rest generalizing passed best with
  | nil =>
    rw [List.append_nil]
    cases best <;> exact h
  | cons c rest ih =>
    have hnext := ih (h.next c)
    rw [List.append_assoc, List.singleton_append] at hnext
    rw [scores_eq, List.map_cons, bestOf_cons, ← scores_eq]
    exact hnext

theorem bestSoFar_scores (cs : List Company) (text : String) :
    BestSoFar text cs (Company.bestOf none (scores cs text)) := by
  have hstart : BestSoFar text [] none := .unscored fun _ hc => absurd hc List.not_mem_nil
  exact hstart.bestOf

/-- Detection, as far as its answer goes: none with scores of zero only, else an earliest best. -/
theorem detect?_cases (cs : List Company) (text : String) :
    (detect? cs text = none ∧ ∀ c ∈ cs, c.scoreIn text = 0) ∨
      ∃ before k after, cs = before ++ k :: after ∧ IsEarliestBest text before k after ∧
        detect? cs text = some k.id := by
  have hbest := bestSoFar_scores cs text
  unfold detect?
  generalize Company.bestOf none (scores cs text) = best at hbest
  cases hbest with
  | unscored hzero => exact .inl ⟨rfl, hzero⟩
  | scored hk => exact .inr ⟨_, _, _, rfl, hk, rfl⟩

/-- There is one earliest best entry only. -/
theorem IsEarliestBest.unique {before' after' : List Company} {k' : Company}
    (h : IsEarliestBest text before k after) (h' : IsEarliestBest text before' k' after')
    (heq : before ++ k :: after = before' ++ k' :: after') :
    before = before' ∧ k = k' ∧ after = after' := by
  have hle : k'.scoreIn text ≤ k.scoreIn text := h.le (heq ▸ by simp)
  have hle' : k.scoreIn text ≤ k'.scoreIn text := h'.le (heq ▸ by simp)
  rcases List.append_eq_append_iff.1 heq with ⟨gap, hgap, hrest⟩ | ⟨gap, hgap, hrest⟩
  · cases gap with
    | nil =>
      rw [List.append_nil] at hgap
      obtain ⟨rfl, rfl⟩ := List.cons.inj hrest
      exact ⟨hgap.symm, rfl, rfl⟩
    | cons d gap =>
      -- `k` stands before `k'` and has at least its score.
      obtain ⟨rfl, -⟩ := List.cons.inj hrest
      have hlt := h'.before_lt k (hgap ▸ by simp)
      omega
  · cases gap with
    | nil =>
      rw [List.append_nil] at hgap
      obtain ⟨rfl, rfl⟩ := List.cons.inj hrest
      exact ⟨hgap, rfl, rfl⟩
    | cons d gap =>
      obtain ⟨rfl, -⟩ := List.cons.inj hrest
      have hlt := h.before_lt k' (hgap ▸ by simp)
      omega

theorem detect?_eq_none_iff : detect? cs text = none ↔ ∀ c ∈ cs, c.scoreIn text = 0 := by
  rcases detect?_cases cs text with ⟨hnone, hzero⟩ | ⟨before, k, after, rfl, hk, hsome⟩
  · exact iff_of_true hnone hzero
  · refine iff_of_false (by simp [hsome]) fun hzero => ?_
    have hpos := hk.pos
    rw [hzero k (by simp)] at hpos
    exact Nat.lt_irrefl 0 hpos

/-- The earliest best entry is the one that detection picks. -/
theorem IsEarliestBest.detect? (h : IsEarliestBest text before k after) :
    detect? (before ++ k :: after) text = some k.id := by
  rcases detect?_cases (before ++ k :: after) text with ⟨-, hzero⟩ | ⟨_, _, _, heq, hk, hsome⟩
  · have hpos := h.pos
    rw [hzero k (by simp)] at hpos
    exact absurd hpos (Nat.lt_irrefl 0)
  · obtain ⟨-, rfl, -⟩ := h.unique hk heq
    exact hsome

/-- **Detection picks the earliest best entry**, and nothing iff every score is zero. The answer
stays if entries follow that score no more than one that is there, and if entries are left out that
are not picked. -/
theorem detect?_earliest (cs : List Company) (text : String) :
    (detect? cs text = none ↔ ∀ c ∈ cs, c.scoreIn text = 0) ∧
    (∀ id, detect? cs text = some id ↔ ∃ before k after, cs = before ++ k :: after ∧ k.id = id ∧
      IsEarliestBest text before k after) ∧
    (∀ others, (∀ d ∈ others, d.scoreIn text = 0 ∨ ∃ c ∈ cs, d.scoreIn text ≤ c.scoreIn text) →
      detect? (cs ++ others) text = detect? cs text) ∧
    (∀ before k after, cs = before ++ k :: after → IsEarliestBest text before k after →
      ∀ before' after', before'.Sublist before → after'.Sublist after →
        detect? (before' ++ k :: after') text = detect? cs text) ∧
    (detect? cs text = none → ∀ fewer, fewer.Sublist cs → detect? fewer text = none) := by
  refine ⟨detect?_eq_none_iff, fun id => ⟨fun h => ?_, ?_⟩, fun others hothers => ?_, ?_, ?_⟩
  · rcases detect?_cases cs text with ⟨hnone, -⟩ | ⟨before, k, after, rfl, hk, hsome⟩
    · rw [hnone] at h
      cases h
    · exact ⟨before, k, after, rfl, Option.some.inj (hsome.symm.trans h), hk⟩
  · rintro ⟨before, k, after, rfl, rfl, hk⟩
    exact hk.detect?
  · rcases detect?_cases cs text with ⟨hnone, hzero⟩ | ⟨before, k, after, rfl, hk, hsome⟩
    · rw [hnone, detect?_eq_none_iff]
      intro d hd
      rcases List.mem_append.1 hd with hd | hd
      · exact hzero d hd
      · rcases hothers d hd with h | ⟨c, hc, hle⟩
        · exact h
        · exact Nat.eq_zero_of_le_zero (hzero c hc ▸ hle)
    · rw [hsome, List.append_assoc, List.cons_append]
      refine IsEarliestBest.detect? ⟨hk.pos, hk.before_lt, fun d hd => ?_⟩
      rcases List.mem_append.1 hd with hd | hd
      · exact hk.after_le d hd
      · rcases hothers d hd with h | ⟨c, hc, hle⟩
        · exact h ▸ Nat.zero_le _
        · exact Nat.le_trans hle (hk.le hc)
  · rintro before k after rfl hk before' after' hbefore hafter
    rw [hk.detect?]
    exact IsEarliestBest.detect? ⟨hk.pos, fun c hc => hk.before_lt c (hbefore.subset hc),
      fun c hc => hk.after_le c (hafter.subset hc)⟩
  · intro hnone fewer hfewer
    have hzero := detect?_eq_none_iff.1 hnone
    exact detect?_eq_none_iff.2 fun c hc => hzero c (hfewer.subset hc)

/-- Of two companies with one occurrence each the first in the table is picked. -/
example : detect? [make "b" ["beta"], make "a" ["alpha"]] "alpha beta" = some "b" := by decide

end Earliest

/-! ## Occurrences on two sides of a character -/

section Occurrences

variable {needle cs ds es : List Char} {c sep : Char}

/-- An occurrence of `needle` begins somewhere in `cs`, or right behind it, and ends in `ds`. -/
def ReachesOver (needle cs ds : List Char) : Prop :=
  ∃ j < needle.length, needle.take j <:+ cs ∧ needle.drop j <+: ds

instance (needle cs ds : List Char) : Decidable (ReachesOver needle cs ds) :=
  inferInstanceAs (Decidable (∃ j < needle.length, needle.take j <:+ cs ∧ needle.drop j <+: ds))

theorem ReachesOver.mono (h : ReachesOver needle cs ds) (hcs : cs <:+ es) :
    ReachesOver needle es ds := by
  obtain ⟨j, hj, hbefore, hafter⟩ := h
  exact ⟨j, hj, hbefore.trans hcs, hafter⟩

/-- Nothing reaches over a character that it does not have. -/
theorem not_reachesOver_of_not_mem (hsep : sep ∉ needle) :
    ¬ ReachesOver needle cs (sep :: ds) := by
  rintro ⟨j, hj, -, hafter⟩
  rw [List.drop_eq_getElem_cons hj, List.cons_prefix_cons] at hafter
  exact hsep (hafter.1 ▸ List.getElem_mem hj)

/-- What does not reach over the end of `cs` begins there iff it stands in `cs` as a whole. -/
theorem isPrefixOf_append_of_not_reachesOver (h : ¬ ReachesOver needle cs ds) :
    needle.isPrefixOf (cs ++ ds) = needle.isPrefixOf cs := by
  rw [Bool.eq_iff_iff, List.isPrefixOf_iff_prefix, List.isPrefixOf_iff_prefix]
  refine ⟨fun hprefix => ?_, fun hprefix => hprefix.trans (List.prefix_append cs ds)⟩
  rcases List.prefix_or_prefix_of_prefix hprefix (List.prefix_append cs ds) with hle | ⟨w, hw⟩
  · exact hle
  · -- The whole of `cs` begins `needle`, and the rest of it stands in `ds`.
    subst hw
    cases w with
    | nil => exact (List.append_nil cs).symm ▸ List.prefix_rfl
    | cons a w =>
      refine absurd ⟨cs.length, ?_, ?_, ?_⟩ h
      · simp
      · exact List.take_left.symm ▸ List.suffix_rfl
      · rw [List.drop_left]
        exact (List.prefix_append_right_inj cs).1 hprefix

/-- The characters still to be passed all stand in `cs`. -/
theorem occurrencesFrom_append (hne : needle ≠ []) (h : ¬ ReachesOver needle cs (c :: ds))
    {wait : Nat} (hwait : wait ≤ cs.length) : occurrencesFrom needle wait (cs ++ c :: ds) =
      occurrencesFrom needle wait cs + occurrences needle ds := by
  induction cs generalizing wait with
  | nil =>
    obtain rfl := Nat.eq_zero_of_le_zero hwait
    have hnot : needle.isPrefixOf (c :: ds) = false := by
      have hempty := isPrefixOf_append_of_not_reachesOver h
      rw [List.nil_append] at hempty
      rw [hempty]
      cases needle with
      | nil => exact absurd rfl hne
      | cons a r => rfl
    have hstop : occurrencesFrom needle 0 [] = 0 := by simp [occurrencesFrom, hne]
    rw [hstop, Nat.zero_add, List.nil_append, occurrencesFrom, hnot, if_neg Bool.false_ne_true]
    rfl
  | cons a r ih =>
    have hr : ¬ ReachesOver needle r (c :: ds) := fun hr => h (hr.mono (List.suffix_cons a r))
    cases wait with
    | succ wait => exact ih hr (Nat.le_of_succ_le_succ hwait)
    | zero =>
      rw [List.cons_append, occurrencesFrom, occurrencesFrom, ← List.cons_append,
        isPrefixOf_append_of_not_reachesOver h]
      split
      · rename_i hprefix
        have hlength := (List.isPrefixOf_iff_prefix.1 hprefix).length_le
        rw [List.length_cons] at hlength
        rw [ih hr (by omega), Nat.add_assoc]
      · exact ih hr (Nat.zero_le _)

/-- **Occurrences on two sides of a character add up if none reaches over it.** -/
theorem occurrences_append (hne : needle ≠ []) (h : ¬ ReachesOver needle cs (c :: ds)) :
    occurrences needle (cs ++ c :: ds) = occurrences needle cs + occurrences needle ds :=
  occurrencesFrom_append hne h (Nat.zero_le _)

/-- What `needle` does not have is passed over. -/
theorem occurrences_cons_of_not_mem (hne : needle ≠ []) (hsep : sep ∉ needle) :
    occurrences needle (sep :: ds) = occurrences needle ds := by
  have hnil : occurrences needle [] = 0 := by simp [occurrences, occurrencesFrom, hne]
  have hadd : occurrences needle ([] ++ sep :: ds) =
      occurrences needle [] + occurrences needle ds :=
    occurrences_append hne (not_reachesOver_of_not_mem hsep)
  rwa [List.nil_append, hnil, Nat.zero_add] at hadd

/-- Equal, or two characters that `needle` does not have. -/
def AlikeTo (needle : List Char) (a b : Char) : Prop := a = b ∨ a ∉ needle ∧ b ∉ needle

theorem isPrefixOf_congr (h : List.Forall₂ (AlikeTo needle) cs ds) :
    needle.isPrefixOf cs = needle.isPrefixOf ds := by
  induction needle generalizing cs ds with
  | nil => simp
  | cons n needle ih =>
    cases h with
    | nil => rfl
    | @cons a b as bs hab htail =>
      have hrest : List.Forall₂ (AlikeTo needle) as bs := by
        refine htail.imp fun x y hxy => hxy.imp_right fun hout => ?_
        exact ⟨fun hx => hout.1 (List.mem_cons_of_mem n hx),
          fun hy => hout.2 (List.mem_cons_of_mem n hy)⟩
      rw [List.isPrefixOf, List.isPrefixOf, ih hrest]
      rcases hab with rfl | ⟨ha, hb⟩
      · rfl
      · have hna : (n == a) = false := beq_false_of_ne fun h => ha (h ▸ List.mem_cons_self)
        have hnb : (n == b) = false := beq_false_of_ne fun h => hb (h ▸ List.mem_cons_self)
        rw [hna, hnb]

/-- Characters that `needle` does not have may be exchanged for one another. -/
theorem occurrencesFrom_congr (h : List.Forall₂ (AlikeTo needle) cs ds) (wait : Nat) :
    occurrencesFrom needle wait cs = occurrencesFrom needle wait ds := by
  induction h generalizing wait with
  | nil => rfl
  | cons hab htail ih =>
    cases wait with
    | succ wait => exact ih wait
    | zero => rw [occurrencesFrom, occurrencesFrom, isPrefixOf_congr (.cons hab htail), ih, ih]

theorem score_eq_sum (c : Company) (cs : List Char) :
    c.score cs = (c.names.map fun name => occurrences name.toList cs).sum := by
  rw [score, List.sum_eq_foldl, List.foldl_map]

end Occurrences

/-! ## Lines -/

section Lines

variable {c : Company} {names : List String} {first second : String}

/-- Names that may occur in a line: none is empty, none reaches over the end of a line. -/
def InLines (names : List String) : Prop := ∀ name ∈ names, name ≠ "" ∧ '\n' ∉ name.toList

instance (names : List String) : Decidable (InLines names) := List.decidableBAll _ _

/-- Names in small letters are as good. -/
theorem InLines.lower (h : InLines names) : InLines (names.map Text.lower) := by
  intro name hname
  obtain ⟨given, hgiven, rfl⟩ := List.mem_map.1 hname
  obtain ⟨hne, hline⟩ := h given hgiven
  exact ⟨mt Text.lower_eq_empty_iff.1 hne, mt (Text.mem_lower_iff (by decide)).1 hline⟩

theorem scoreIn_append (h : InLines c.names) (first second : String) :
    c.scoreIn (first ++ "\n" ++ second) = c.scoreIn first + c.scoreIn second := by
  have hlines : (first ++ "\n" ++ second).toList = first.toList ++ '\n' :: second.toList := by simp
  rw [scoreIn, hlines, Text.lowerChars_append_newLine, score_eq_sum, scoreIn, scoreIn,
    score_eq_sum, score_eq_sum, ← List.sum_map_add]
  refine congrArg List.sum (List.map_congr_left fun name hname => ?_)
  obtain ⟨hne, hline⟩ := h name hname
  exact occurrences_append (mt String.toList_eq_nil_iff.1 hne) (not_reachesOver_of_not_mem hline)

theorem scoreIn_empty (h : InLines c.names) : c.scoreIn "" = 0 := by
  have hempty : Text.lowerChars "".toList = [] := rfl
  rw [scoreIn, hempty, score_eq_sum]
  refine List.sum_eq_zero fun n hn => ?_
  obtain ⟨name, hname, rfl⟩ := List.mem_map.1 hn
  have hne : name.toList ≠ [] := mt String.toList_eq_nil_iff.1 (h name hname).1
  simp [occurrences, occurrencesFrom, hne]

theorem scoreIn_intercalate (h : InLines c.names) (parts : List String) :
    c.scoreIn ("\n".intercalate parts) = (parts.map c.scoreIn).sum := by
  induction parts with
  | nil => exact scoreIn_empty h
  | cons first rest ih =>
    cases rest with
    | nil => simp
    | cons second rest =>
      rw [String.intercalate_cons_cons, scoreIn_append h, ih]
      exact List.sum_cons.symm

/-- **Scores add up over the lines of a text.** For every table whose names, in any case, are not
empty and stay within a line, a text of two parts with a new line between them gives each company
the sum of its scores; so the order of parts does not matter to detection. -/
theorem scores_lines {table : List (String × List String)} (htable : ∀ e ∈ table, InLines e.2) :
    let cs := table.map fun e => make e.1 e.2
    (∀ c ∈ cs, ∀ first second,
      c.scoreIn (first ++ "\n" ++ second) = c.scoreIn first + c.scoreIn second) ∧
    ∀ parts others : List String, parts.Perm others →
      detect? cs ("\n".intercalate parts) = detect? cs ("\n".intercalate others) := by
  intro cs
  have hcs : ∀ c ∈ cs, InLines c.names := by
    intro c hc
    obtain ⟨e, he, rfl⟩ := List.mem_map.1 hc
    exact (htable e he).lower
  refine ⟨fun c hc => scoreIn_append (hcs c hc), fun parts others hperm => ?_⟩
  have hscores : scores cs ("\n".intercalate parts) = scores cs ("\n".intercalate others) := by
    rw [scores_eq, scores_eq]
    refine List.map_congr_left fun c hc => ?_
    rw [scoreIn_intercalate (hcs c hc), scoreIn_intercalate (hcs c hc),
      (hperm.map c.scoreIn).sum_eq]
  rw [detect?, detect?, hscores]

/-- A name that overlaps itself, and a capital that becomes two characters. -/
theorem scores_lines_overlapping :
    let table := [("iz", ["İZ"]), ("ana", ["ANA"])]
    let cs := table.map fun e => make e.1 e.2
    (∀ e ∈ table, InLines e.2) ∧
      (make "ana" ["ANA"]).scoreIn ("Anana" ++ "\n" ++ "na İZ ana") = 1 + 1 ∧
      detect? cs ("\n".intercalate ["Anana", "İZ", "ana"]) = some "ana" ∧
      detect? cs ("\n".intercalate ["ana", "İZ", "Anana"]) = some "ana" := by
  intro table cs
  have htable : ∀ e ∈ table, InLines e.2 := by decide
  obtain ⟨hsum, hperm⟩ := scores_lines htable
  have hpicked : detect? cs ("\n".intercalate ["Anana", "İZ", "ana"]) = some "ana" := by decide
  refine ⟨htable, ?_, hpicked, ?_⟩
  · rw [hsum _ (by decide)]
    decide
  · rw [← hpicked]
    exact hperm _ _ (by decide)

end Lines

end PolicyFields.Company
