import PolicyFields.Proofs.Files.Place

/-!
# Files after more work

Writing a file makes the directories above it and puts the file at its place. Here such work is seen
from outside, by what it leaves alone, and side by side with the same work done on other files.

* `Files.Ahead` — files after more work: directories have been made on some ways, some goals hold
  something else, and all else is as it was.
* `Files.IsTree.writeWithParents_child` — **writing a file below a firm path leaves a tree, ahead by
  that file and its way**.
* `Files.Ahead.writeWithParents_child` — **writing a file to files of which one is ahead, but not by
  that file, ends alike for both and leaves the one ahead**.
-/

namespace PolicyFields.Files

open PolicyFields.Path (Component IsFileName)
open PolicyFields.Path.Component (lead)

variable {f g k : Files} {p : Path} {l m : Location} {name : String}
variable {way goal goal' : Location → Prop}

/-- `g` is `f` after more work. On a way there may be a directory now where there was nothing, and
at a goal anything that is no directory may have become a file. Elsewhere nothing has changed, nor
has the order of what is there. -/
structure Ahead (way goal : Location → Prop) (f g : Files) : Prop where
  start : g.start = f.start
  elsewhere : ∀ keep : Location → Bool, (∀ l, keep l = true → ¬way l ∧ ¬goal l) →
    g.nodes.filter (fun e => keep e.1) = f.nodes.filter (fun e => keep e.1)
  made : ∀ l, way l → g.node? l = f.node? l ∨ f.node? l = none ∧ g.node? l = some .directory
  stays : ∀ l, f.node? l = some .directory → g.node? l = some .directory

namespace Ahead

theorem refl (way goal : Location → Prop) (f : Files) : Ahead way goal f f :=
  ⟨rfl, fun _ _ => rfl, fun _ _ => .inl rfl, fun _ h => h⟩

theorem trans (h : Ahead way goal f g) (h' : Ahead way goal g k) : Ahead way goal f k where
  start := h'.start.trans h.start
  elsewhere keep hkeep := (h'.elsewhere keep hkeep).trans (h.elsewhere keep hkeep)
  made l hl := by
    rcases h.made l hl with heq | ⟨hnone, hdirectory⟩
    · rw [← heq]
      exact h'.made l hl
    · exact .inr ⟨hnone, h'.stays l hdirectory⟩
  stays l hl := h'.stays l (h.stays l hl)

theorem mono (hgoal : ∀ l, goal l → goal' l) (h : Ahead way goal f g) : Ahead way goal' f g where
  start := h.start
  elsewhere keep hkeep := h.elsewhere keep fun l hl =>
    ⟨(hkeep l hl).1, fun hl' => (hkeep l hl).2 (hgoal l hl')⟩
  made := h.made
  stays := h.stays

theorem beginning_eq (h : Ahead way goal f g) (p : Path) : g.beginning p = f.beginning p := by
  rw [beginning, beginning, h.start]

theorem place_eq (h : Ahead way goal f g) (p : Path) : g.place p = f.place p := by
  rw [place, place, h.beginning_eq]

theorem leads (h : Ahead way goal f g) (hp : f.Leads p) : g.Leads p := by
  rw [Leads, h.beginning_eq]
  exact Along.mono h.stays hp

theorem firm (h : Ahead way goal f g) (hp : f.Firm p) : g.Firm p := by
  rw [Firm, h.beginning_eq]
  exact Climbs.mono h.stays hp

end Ahead

/-! ## What is elsewhere -/

theorem lookup_filter {keep : Location → Bool} (hl : keep l = true)
    (nodes : List (Location × Node)) :
    (nodes.filter fun e => keep e.1).lookup l = nodes.lookup l := by
  induction nodes with
  | nil => rfl
  | cons e nodes ih =>
    cases hkeep : keep e.1 with
    | true => rw [List.filter_cons, if_pos hkeep, List.lookup_cons, List.lookup_cons, ih]
    | false =>
      have hne : l ≠ e.1 := by
        rintro rfl
        rw [hl] at hkeep
        cases hkeep
      rw [List.filter_cons, if_neg (by simp [hkeep]), List.lookup_cons,
        beq_eq_false_iff_ne.2 hne, ih]

theorem Ahead.node?_eq (h : Ahead way goal f g) (hway : ¬way l) (hgoal : ¬goal l) :
    g.node? l = f.node? l := by
  let keep : Location → Bool := fun m => m == l
  have hkeep : keep l = true := beq_self_eq_true l
  have hnodes := h.elsewhere keep fun m hm => by
    obtain rfl := beq_iff_eq.1 hm
    exact ⟨hway, hgoal⟩
  unfold node?
  rw [h.start, ← lookup_filter hkeep g.nodes, hnodes, lookup_filter hkeep]

theorem Ahead.children_eq (h : Ahead way goal f g)
    (hl : ∀ n, ¬way (l ++ [n]) ∧ ¬goal (l ++ [n])) : g.children l = f.children l := by
  have hchildren (k : Files) : k.children l =
      (k.nodes.filter fun e => (childName? l e.1).isSome).filterMap fun e =>
        (childName? l e.1).map fun name => (name, e.2) := by
    rw [children, List.filterMap_filter]
    refine List.filterMap_congr fun e _ => ?_
    cases childName? l e.1 <;> rfl
  rw [hchildren, hchildren, h.elsewhere (fun m => (childName? l m).isSome)]
  intro m hm
  obtain ⟨n, hn⟩ := Option.isSome_iff_exists.1 hm
  rw [childName?_eq_some_iff.1 hn]
  exact hl n

/-! ## One change -/

theorem node?_set_of_ne (x : Node) (hne : m ≠ l) : (f.set l x).node? m = f.node? m := by
  rw [node?_set, if_neg hne]
  rfl

theorem filter_set (keep : Location → Bool) (x : Node) :
    (f.set l x).nodes.filter (fun e => keep e.1) =
      (f.nodes.filter fun e => keep e.1).filter (fun e => e.1 != l) ++
        if keep l = true then [(l, x)] else [] := by
  rw [set, List.filter_append, List.filter_filter, List.filter_filter, List.filter_singleton]
  simp only [Bool.and_comm]
  cases keep l <;> rfl

/-- A change at a place that is not looked at. -/
theorem filter_set_of_not {keep : Location → Bool} (x : Node) (hl : keep l = false) :
    (f.set l x).nodes.filter (fun e => keep e.1) = f.nodes.filter fun e => keep e.1 := by
  rw [filter_set, hl, List.filter_filter]
  simp only [Bool.false_eq_true, if_false, List.append_nil]
  refine List.filter_congr fun e _ => ?_
  cases he : keep e.1 with
  | false => exact Bool.and_false _
  | true =>
    have hne : e.1 ≠ l := by
      rintro rfl
      rw [hl] at he
      cases he
    simp [hne]

/-- A directory made on a way, or a file put at a goal, where there is no directory. -/
theorem ahead_set {x : Node} (hnode : f.node? l ≠ some .directory)
    (hx : way l ∧ f.node? l = none ∧ x = .directory ∨ ¬way l ∧ goal l) :
    Ahead way goal f (f.set l x) where
  start := rfl
  elsewhere keep hkeep := by
    refine filter_set_of_not x ?_
    by_contra hl
    rw [Bool.not_eq_false] at hl
    rcases hx with ⟨hway, -⟩ | ⟨-, hgoal⟩
    · exact (hkeep l hl).1 hway
    · exact (hkeep l hl).2 hgoal
  made m hm := by
    by_cases hne : m = l
    · subst hne
      rcases hx with ⟨-, hnone, rfl⟩ | ⟨hnot, -⟩
      · exact .inr ⟨hnone, node?_set_self _ hnode⟩
      · exact absurd hm hnot
    · exact .inl (node?_set_of_ne x hne)
  stays m hm := node?_set_directory x hnode hm

/-- The same change on both sides. -/
theorem Ahead.set_both (h : Ahead way goal f g) {x : Node} (hf : f.node? l ≠ some .directory)
    (hg : g.node? l ≠ some .directory) : Ahead way goal (f.set l x) (g.set l x) where
  start := h.start
  elsewhere keep hkeep := by rw [filter_set, filter_set, h.elsewhere keep hkeep]
  made m hm := by
    by_cases hne : m = l
    · rw [hne, node?_set_self x hf, node?_set_self x hg]
      exact .inl rfl
    · rw [node?_set_of_ne x hne, node?_set_of_ne x hne]
      exact h.made m hm
  stays m hm := by
    by_cases hne : m = l
    · rw [hne] at hm ⊢
      rwa [node?_set_self x hg, ← node?_set_self x hf]
    · rw [node?_set_of_ne x hne] at hm ⊢
      exact h.stays m hm

/-- A directory made that has been made on the other side already. -/
theorem Ahead.set_left (h : Ahead way goal f g) (hway : way l) (hf : f.node? l = none)
    (hg : g.node? l = some .directory) : Ahead way goal (f.set l .directory) g := by
  have hfree : f.node? l ≠ some .directory := by simp [hf]
  refine ⟨h.start, fun keep hkeep => ?_, fun m hm => ?_, fun m hm => ?_⟩
  · rw [h.elsewhere keep hkeep]
    refine (filter_set_of_not _ ?_).symm
    by_contra hl
    exact (hkeep l (Bool.not_eq_false _ ▸ hl)).1 hway
  · by_cases hne : m = l
    · rw [hne, node?_set_self _ hfree]
      exact .inl hg
    · rw [node?_set_of_ne _ hne]
      exact h.made m hm
  · by_cases hne : m = l
    · rw [hne, hg]
    · rw [node?_set_of_ne _ hne] at hm
      exact h.stays m hm

theorem IsTree.set (hf : f.IsTree) (hl : f.node? l = some .directory) (hname : IsFileName name)
    (hfree : f.node? (l ++ [name]) ≠ some .directory) (x : Node) :
    (f.set (l ++ [name]) x).IsTree where
  parent m n y hm := by
    by_cases hne : m ++ [n] = l ++ [name]
    · rw [(List.append_inj' hne rfl).1]
      exact node?_set_directory x hfree hl
    · rw [node?_set_of_ne x hne] at hm
      exact node?_set_directory x hfree (hf.parent m n y hm)
  named m e he := by
    obtain ⟨⟨k, y⟩, hmem, hk⟩ := List.mem_filterMap.1 he
    rcases List.mem_append.1 hmem with hmem | hmem
    · exact hf.named m e (List.mem_filterMap.2 ⟨_, List.mem_of_mem_filter hmem, hk⟩)
    · obtain ⟨rfl, rfl⟩ := Prod.mk.inj (List.mem_singleton.1 hmem)
      obtain ⟨n, hn, rfl⟩ := Option.map_eq_some_iff.1 hk
      have hlast := (List.append_inj' (childName?_eq_some_iff.1 hn) rfl).2
      rwa [List.singleton_inj.1 hlast] at hname

/-! ## Directories -/

theorem makeParents_child (f : Files) (p : Path) (h : IsFileName name) :
    f.makeParents (p.child name) = f.makeFrom (f.beginning p) p.steps := by
  rw [makeParents, Path.parentComponents?_child p h]
  change f.makeFrom f.start p.components = _
  unfold beginning Path.components Path.steps
  split
  · rfl
  · split <;> rfl

section

variable {cs : List Component}

/-- Where something is not a directory, the rest of a path that goes up only from directories lies
below it. -/
theorem IsTree.name_prefix (hf : f.IsTree) {n : String} {r : List Component}
    (hsteps : ∀ c ∈ .name n :: r, c = .up ∨ ∃ n, IsFileName n ∧ c = .name n)
    (hclimbs : f.Climbs l (.name n :: r)) (hfree : f.node? (l ++ [n]) ≠ some .directory) :
    l ++ [n] <+: (Component.name n :: r).foldl lead l := by
  have hroot : ∀ c ∈ r, c ≠ .root := by
    intro c hc
    rcases hsteps c (List.mem_cons_of_mem _ hc) with rfl | ⟨_, -, rfl⟩ <;> simp
  change l ++ [n] <+: r.foldl lead (l ++ [n])
  exact hf.prefix_foldl_lead hroot hfree List.prefix_rfl hclimbs.2

/-- Making the directories of a path leaves a tree in which the path leads to a directory. -/
theorem IsTree.makeFrom (hf : f.IsTree)
    (hsteps : ∀ c ∈ cs, c = .up ∨ ∃ n, IsFileName n ∧ c = .name n)
    (hl : f.node? l = some .directory) (hclimbs : f.Climbs l cs)
    (hway : ∀ m, m <+: cs.foldl lead l → way m) (h : f.makeFrom l cs = .ok g) :
    g.IsTree ∧ Ahead way goal f g ∧ g.Along l cs := by
  induction cs generalizing f l with
  | nil =>
    obtain rfl := Except.ok.inj h
    exact ⟨hf, .refl _ _ _, hl⟩
  | cons c r ih =>
    obtain ⟨hc, hr⟩ := List.forall_mem_cons.1 hsteps
    rcases hc with rfl | ⟨n, hn, rfl⟩
    · rw [Files.makeFrom] at h
      have hup := hf.prefix_directory hl (List.dropLast_prefix l)
      obtain ⟨htree, hahead, halong⟩ := ih hf hr hup hclimbs.2 hway h
      exact ⟨htree, hahead, hahead.stays l hl, halong⟩
    · rw [Files.makeFrom] at h
      split at h
      · rename_i hdirectory
        obtain ⟨htree, hahead, halong⟩ := ih hf hr hdirectory hclimbs.2 hway h
        exact ⟨htree, hahead, hahead.stays l hl, halong⟩
      · cases h
      · rename_i hnone
        have hfree : f.node? (l ++ [n]) ≠ some .directory := by simp [hnone]
        have hmade : Ahead way goal f (f.set (l ++ [n]) .directory) :=
          ahead_set hfree (.inl ⟨hway _ (hf.name_prefix hsteps hclimbs hfree), hnone, rfl⟩)
        obtain ⟨htree, hahead, halong⟩ := ih (hf.set hl hn hfree .directory) hr
          (node?_set_self _ hfree) (hclimbs.2.mono hmade.stays) hway h
        exact ⟨htree, hmade.trans hahead, hahead.stays l (hmade.stays l hl), halong⟩

/-- Directories are made alike, also if some of them have been made already on one side. -/
theorem Ahead.makeFrom (h : Ahead way goal f g) (hf : f.IsTree)
    (hsteps : ∀ c ∈ cs, c = .up ∨ ∃ n, IsFileName n ∧ c = .name n)
    (hl : f.node? l = some .directory) (hclimbs : f.Climbs l cs)
    (hway : ∀ m, m <+: cs.foldl lead l → way m) :
    (∃ e, f.makeFrom l cs = .error e ∧ g.makeFrom l cs = .error e) ∨
      ∃ f' g', f.makeFrom l cs = .ok f' ∧ g.makeFrom l cs = .ok g' ∧ Ahead way goal f' g' := by
  induction cs generalizing f g l with
  | nil => exact .inr ⟨f, g, rfl, rfl, h⟩
  | cons c r ih =>
    obtain ⟨hc, hr⟩ := List.forall_mem_cons.1 hsteps
    rcases hc with rfl | ⟨n, hn, rfl⟩
    · rw [Files.makeFrom, Files.makeFrom]
      exact ih h hf hr (hf.prefix_directory hl (List.dropLast_prefix l)) hclimbs.2 hway
    · rw [Files.makeFrom, Files.makeFrom]
      cases hnode : f.node? (l ++ [n]) with
      | none =>
        have hfree : f.node? (l ++ [n]) ≠ some .directory := by simp [hnode]
        have htree := hf.set hl hn hfree .directory
        have hself := node?_set_self .directory hfree
        have hclimbs' : (f.set (l ++ [n]) .directory).Climbs (l ++ [n]) r :=
          hclimbs.2.mono fun m => node?_set_directory _ hfree
        have hon := hway _ (hf.name_prefix hsteps hclimbs hfree)
        -- On the other side there is nothing either, or the directory has been made.
        rcases h.made _ hon with heq | ⟨-, hmade⟩
        · rw [heq, hnode]
          exact ih (h.set_both hfree (heq ▸ hfree)) htree hr hself hclimbs' hway
        · rw [hmade]
          exact ih (h.set_left hon hnode hmade) htree hr hself hclimbs' hway
      | some x =>
        cases x with
        | directory =>
          rw [h.stays _ hnode]
          exact ih h hf hr hnode hclimbs.2 hway
        | file c =>
          have hfree : f.node? (l ++ [n]) ≠ some .directory := by simp [hnode]
          rcases h.made _ (hway _ (hf.name_prefix hsteps hclimbs hfree)) with heq | ⟨hnone, -⟩
          · rw [heq, hnode]
            exact .inl ⟨_, rfl, rfl⟩
          · rw [hnode] at hnone
            cases hnone

end

/-! ## Files -/

theorem write_child (h : IsFileName name) (hp : f.Leads p) (c : Content) :
    f.write (p.child name) c =
      if f.node? (f.place p ++ [name]) = some .directory then .error .isADirectory
      else .ok (f.set (f.place p ++ [name]) (.file c)) := by
  have htarget : f.target (p.child name) = .ok (f.place p ++ [name]) := by
    rw [target, (Path.text_child_of_isFileName p h).2]
    exact (locate_child h).2 ⟨hp, rfl⟩
  rw [write, htarget]
  cases hnode : f.node? (f.place p ++ [name]) with
  | none => simp only [bind, Except.bind, hnode, reduceCtorEq, if_false]
  | some n => cases n <;> simp [bind, Except.bind, hnode]

theorem makeParents_leads {way goal : Location → Prop} (hf : f.IsTree) (hp : f.Firm p)
    (h : IsFileName name) (hway : ∀ m, m <+: f.place p → way m)
    (hmake : f.makeParents (p.child name) = .ok g) :
    g.IsTree ∧ Ahead way goal f g ∧ g.Leads p := by
  rw [makeParents_child f p h] at hmake
  have hmade : g.IsTree ∧ Ahead way goal f g ∧ g.Along (f.beginning p) p.steps :=
    hf.makeFrom (fun c hc => Path.eq_of_mem_steps hc) (f.node?_beginning p) hp hway hmake
  obtain ⟨hg, hahead, halong⟩ := hmade
  refine ⟨hg, hahead, ?_⟩
  rw [Leads, hahead.beginning_eq]
  exact halong

/-- **Writing a file below a firm path leaves a tree, ahead by that file and its way.** -/
theorem IsTree.writeWithParents_child (hf : f.IsTree) (hp : f.Firm p) (h : IsFileName name)
    (hway : ∀ m, m <+: f.place p → way m) (hgoal : goal (f.place p ++ [name]))
    (hnot : ¬way (f.place p ++ [name])) (c : Content) :
    (f.writeWithParents (p.child name) c).2.IsTree ∧
      Ahead way goal f (f.writeWithParents (p.child name) c).2 := by
  rw [writeWithParents]
  cases hmake : f.makeParents (p.child name) with
  | error e => exact ⟨hf, .refl _ _ _⟩
  | ok g =>
    have hmade : g.IsTree ∧ Ahead way goal f g ∧ g.Leads p := makeParents_leads hf hp h hway hmake
    obtain ⟨hg, hahead, hleads⟩ := hmade
    simp only
    rw [write_child h hleads, hahead.place_eq]
    by_cases hfree : g.node? (f.place p ++ [name]) = some .directory
    · rw [if_pos hfree]
      exact ⟨hg, hahead⟩
    · rw [if_neg hfree]
      have hdirectory : g.node? (f.place p) = some .directory := hahead.place_eq p ▸ hleads.last
      exact ⟨hg.set hdirectory h hfree _, hahead.trans (ahead_set hfree (.inr ⟨hnot, hgoal⟩))⟩

/-- **Writing files of one name ends alike for files of which one is ahead of the other, if not by
a file of that name.** Either it fails with the same error, or both names hold what was written; the
one stays ahead if that is the same. -/
theorem Ahead.writeWithParents_child (hahead : Ahead way goal f g) (hf : f.IsTree) (hg : g.IsTree)
    (hp : f.Firm p) (h : IsFileName name) (hway : ∀ m, m <+: f.place p → way m)
    (hnot : ¬way (f.place p ++ [name])) (hgoal : ¬goal (f.place p ++ [name])) (c c' : Content) :
    (∃ e f' g', f.writeWithParents (p.child name) c = (.error e, f') ∧
      g.writeWithParents (p.child name) c' = (.error e, g') ∧ Ahead way goal f' g') ∨
    ∃ f' g', f.writeWithParents (p.child name) c = (.ok (), f') ∧
      g.writeWithParents (p.child name) c' = (.ok (), g') ∧
      f'.node? (f.place p ++ [name]) = some (.file c) ∧
      g'.node? (f.place p ++ [name]) = some (.file c') ∧ (c = c' → Ahead way goal f' g') := by
  have hmake := hahead.makeFrom hf (fun c hc => Path.eq_of_mem_steps hc) (f.node?_beginning p) hp
    hway
  rw [← makeParents_child f p h, ← hahead.beginning_eq, ← makeParents_child g p h] at hmake
  unfold writeWithParents
  rcases hmake with ⟨e, hf', hg'⟩ | ⟨f', g', hf', hg', hahead'⟩
  · rw [hf', hg']
    exact .inl ⟨e, f, g, rfl, rfl, hahead⟩
  · have hmadef : f'.IsTree ∧ Ahead way goal f f' ∧ f'.Leads p :=
      makeParents_leads hf hp h hway hf'
    have hwayg : ∀ m, m <+: g.place p → way m := hahead.place_eq p ▸ hway
    have hmadeg : g'.IsTree ∧ Ahead way goal g g' ∧ g'.Leads p :=
      makeParents_leads hg (hahead.firm hp) h hwayg hg'
    have hnode := hahead'.node?_eq hnot hgoal
    rw [hf', hg']
    simp only
    rw [write_child h hmadef.2.2, write_child h hmadeg.2.2, hahead'.place_eq,
      hmadef.2.1.place_eq, hnode]
    by_cases hfree : f'.node? (f.place p ++ [name]) = some .directory
    · rw [if_pos hfree, if_pos hfree]
      exact .inl ⟨_, f', g', rfl, rfl, hahead'⟩
    · rw [if_neg hfree, if_neg hfree]
      have hfree' : g'.node? (f.place p ++ [name]) ≠ some .directory := hnode ▸ hfree
      refine .inr ⟨_, _, rfl, rfl, node?_set_self _ hfree, node?_set_self _ hfree', ?_⟩
      rintro rfl
      exact hahead'.set_both hfree hfree'

end PolicyFields.Files
