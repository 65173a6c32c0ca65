import PolicyFields.Proofs.Extraction.Provenance
import PolicyFields.Proofs.Extraction.Session

/-!
# Collecting and falling back

Several patterns either collect all their matches or form a chain that falls back to the next
pattern. One side goes through all matches of a pattern, the other looks for the first alone.

* `Machine.head?_all` — **the first of all matches is the first match**.
* `Finder.all_empty` — **the empty pattern reports nothing**, so that leaving it out loses nothing.
* `Entry.mem_reported` — what an entry finds in a chain is among all that its pattern reports.
* `extract_collecting` — **what is collected is what the patterns report one by one**, and what a
  chain of them yields is part of it.
-/

namespace PolicyFields.Regex

variable {program : Array Instruction} {p : Place}

/-! ## The first of all matches -/

/-- With no match before it an empty match is as good as any other. -/
theorem findNext?_none : findNext? program p none = find? program p := by
  unfold findNext?
  cases find? program p with
  | none => rfl
  | some m => exact if_neg fun h => Option.some_ne_none _ h.2.symm

theorem head?_findAll (fuel : Nat) (last : Option Nat) :
    (findAll program (fuel + 1) p last).head? = findNext? program p last := by
  rw [findAll]
  cases findNext? program p last with
  | none => rfl
  | some m => rfl

/-- **The first of all matches is the first match.** -/
theorem Machine.head?_all (machine : Machine) (text : List Char) :
    (machine.all text).head? = machine.first? text := by
  rw [all, head?_findAll, findNext?_none, first?]

/-! ## The empty pattern -/

theorem explore_empty (p : Place) (start : Nat) :
    explore Pattern.empty.program p (Pattern.empty.program.size + 1) ⟨0, start, [], []⟩ .empty =
      ⟨3, [⟨1, start, [], []⟩]⟩ := by
  have hnew : Nat.testBit 1 1 = false := rfl
  change explore #[.pass 1, .done] p 3 _ _ = _
  simp [explore, Thread.goto, Frontier.empty, hnew]

/-- The empty pattern matches at once, wherever the search begins. -/
theorem find?_empty (p : Place) : find? Pattern.empty.program p = some ⟨⟨p.index, 0⟩, []⟩ := by
  obtain ⟨index, before, rest⟩ := p
  have hwidth : Match.mk ⟨index, index - index⟩ [] = ⟨⟨index, 0⟩, []⟩ := by rw [Nat.sub_self]
  unfold find?
  cases rest with
  | nil =>
    rw [searchFrom]
    simp only [Option.isNone_none, if_true, explore_empty]
    exact congrArg some hwidth
  | cons c r =>
    rw [searchFrom]
    simp only [Option.isNone_none, if_true, explore_empty]
    change searchFrom _ r (index + 1) (some c) .empty (some ⟨⟨index, index - index⟩, []⟩) = _
    rw [hwidth]
    -- The only thread is done, and where there is a match no other begins.
    cases r <;> rfl

theorem findNext?_empty {last : Option Nat} {m : Match}
    (h : findNext? Pattern.empty.program p last = some m) : m.whole.length = 0 ∧ m.groups = [] := by
  rw [findNext?, find?_empty] at h
  dsimp only at h
  split at h
  · obtain ⟨q, -, hq⟩ := Option.bind_eq_some_iff.1 h
    rw [find?_empty] at hq
    obtain rfl := Option.some.inj hq
    exact ⟨rfl, rfl⟩
  · obtain rfl := Option.some.inj h
    exact ⟨rfl, rfl⟩

/-- All matches of the empty pattern are empty. -/
theorem findAll_empty (fuel : Nat) (p : Place) (last : Option Nat) :
    ∀ m ∈ findAll Pattern.empty.program fuel p last, m.whole.length = 0 ∧ m.groups = [] := by
  induction fuel generalizing p last with
  | zero => exact fun m hm => absurd hm List.not_mem_nil
  | succ fuel ih =>
    intro m hm
    rw [findAll] at hm
    split at hm
    · exact absurd hm List.not_mem_nil
    · rename_i found hfound
      rcases List.mem_cons.1 hm with rfl | hm
      · exact findNext?_empty hfound
      · exact ih _ _ m hm

/-- The empty text is the empty pattern, whatever the options are. -/
theorem compile_empty (o : Options) : o.compile "" = .ok ⟨Pattern.empty.program, 1⟩ := by
  have htree : Tree.ofPattern? "" = some Tree.empty := by rfl
  unfold Options.compile
  rw [htree]
  rfl

end PolicyFields.Regex

namespace PolicyFields.Extraction

open Regex (Options Machine Match)

variable {o : Options} {text : String} {e : Entry} {es : List Entry}

/-! ## What a pattern reports -/

/-- **The empty pattern reports nothing**: its matches are empty, and it has no groups. -/
theorem Finder.all_empty (o : Options) (index : Nat) (text : String) :
    (Finder.compile o "" index).all text = [] := by
  rw [all, compile, Regex.compile_empty]
  dsimp only [Except.toOption]
  rw [List.filter_eq_nil_iff]
  intro s hs
  obtain ⟨m, hm, hresolve⟩ := List.mem_filterMap.1 hs
  obtain ⟨hempty, hgroups⟩ := Regex.findAll_empty _ _ _ m hm
  by_cases hindex : index = 0
  · subst hindex
    have hslice : m.whole.slice text.toList = [] := by rw [Regex.Span.slice, hempty, List.take_zero]
    rw [resolve, Match.group?, if_pos rfl, Option.bind_some, hslice] at hresolve
    obtain rfl := Option.some.inj hresolve
    decide
  · have hnone : m.group? index = none := by
      rw [Match.group?, if_neg hindex, hgroups]
      rfl
    rw [resolve, hnone] at hresolve
    cases hresolve

/-- What the first match yields is the first of all that is reported, unless it is empty. -/
theorem Finder.mem_all {f : Finder} {s : String} (h : f.hit? text = some s) : s ∈ f.all text := by
  obtain ⟨hfirst, hs⟩ := hit?_eq_some_iff.1 h
  obtain ⟨machine, hmachine, hfound⟩ := Option.bind_eq_some_iff.1 hfirst
  obtain ⟨m, hm, hresolve⟩ := Option.bind_eq_some_iff.1 hfound
  rw [← Machine.head?_all] at hm
  rw [all, hmachine]
  refine List.mem_filter.2 ⟨List.mem_filterMap.2 ⟨m, List.mem_of_mem_head? hm, hresolve⟩, ?_⟩
  simpa using hs

/-- All that the pattern of an entry reports in a text, tried on its own. -/
def Entry.reported (o : Options) (text : String) (e : Entry) : List String :=
  (Finder.compile o e.pattern e.groupIndex).all text

/-- An entry with an empty pattern is left out, but it would report nothing either. -/
theorem Entry.items_eq_reported (e : Entry) : e.items o text = e.reported o text := by
  unfold items reported
  split
  · rename_i hempty
    rw [hempty, Finder.all_empty]
  · rfl

/-- What an entry finds in a chain is among all that its pattern reports. -/
theorem Entry.mem_reported {s : String} (h : e.hit? o text = some s) : s ∈ e.reported o text := by
  unfold hit? at h
  split at h
  · cases h
  · exact Finder.mem_all h

theorem testPattern_eq {σ : Type} {ex : Extractor} {read : Reader σ} {p : Path} {s s' : Session σ}
    (h : Extractor.text read p s = (.ok text, s')) (e : Entry) :
    ex.testPattern read p e.pattern e.groupIndex s = (.ok (e.reported ex.options text), s') := by
  rw [Extractor.testPattern, Run.bind_apply, h]
  rfl

/-! ## Collecting against a chain -/

/-- **What is collected is what the patterns report one by one**, in their order, also where a
pattern is empty or does not compile; a chain of the patterns yields nothing or a text that is among
what is collected, so that it yields nothing where nothing is collected. -/
theorem extract_collecting (ex : Extractor) (es : List Entry) (text : String) :
    let collected := (Rule.several es .all).extract ex.options text
    let reported := es.flatMap fun e => e.reported ex.options text
    (collected = if reported = [] then none else some (.list reported)) ∧
      (∀ {σ : Type} (read : Reader σ) (p : Path) (s s' : Session σ),
        Extractor.text read p s = (.ok text, s') → ∀ e ∈ es,
          ex.testPattern read p e.pattern e.groupIndex s =
            (.ok (e.reported ex.options text), s')) ∧
      (∀ mode ≠ .all, ∀ found, (Rule.several es mode).extract ex.options text = some found →
        ∃ h items, found = .text h ∧ collected = some (.list items) ∧ h ∈ items) ∧
      (collected = none → ∀ mode, (Rule.several es mode).extract ex.options text = none) := by
  intro collected reported
  have hcollected : collected = if reported = [] then none else some (.list reported) := by
    change (Rule.several es .all).extract ex.options text = _
    have hitems : (es.map (Entry.items ex.options text)).flatten = reported := by
      rw [← List.flatMap_def]
      exact List.flatMap_congr fun e _ => e.items_eq_reported
    rw [extract_several_all, hitems]
  have hchain : ∀ mode ≠ .all, ∀ found,
      (Rule.several es mode).extract ex.options text = some found →
        ∃ h items, found = .text h ∧ collected = some (.list items) ∧ h ∈ items := by
    intro mode hmode found hfound
    rw [extract_several_eq es hmode, Option.map_eq_some_iff] at hfound
    obtain ⟨h, hhit, rfl⟩ := hfound
    obtain ⟨e, he, hentry⟩ := List.exists_of_findSome?_eq_some hhit
    have hmem : h ∈ reported := List.mem_flatMap.2 ⟨e, he, Entry.mem_reported hentry⟩
    exact ⟨h, reported, rfl, hcollected.trans (if_neg (List.ne_nil_of_mem hmem)), hmem⟩
  refine ⟨hcollected, fun read p s s' hread e _ => testPattern_eq hread e, hchain, ?_⟩
  intro hnone mode
  by_cases hmode : mode = .all
  · exact hmode ▸ hnone
  · refine Option.eq_none_iff_forall_ne_some.2 fun found hfound => ?_
    obtain ⟨h, items, -, hsome, -⟩ := hchain mode hmode found hfound
    rw [hnone] at hsome
    cases hsome

/-- The first match of the first pattern is blank; behind it stand an empty pattern and one that
does not compile. -/
theorem extract_collecting_blank :
    let es : List Entry :=
      [.detailed " |8" (.group 0), .bare "", .bare "(", .detailed "7" (.group 0)]
    let ex : Extractor := ⟨"", .extraction, .empty, false⟩
    let read : Reader Unit := fun _ s => (.ok "7 8", s)
    (Rule.several es .first).extract .extraction "7 8" = some (.text "7") ∧
      (∃ items, (Rule.several es .all).extract .extraction "7 8" = some (.list items) ∧
        "7" ∈ items) ∧
      (ex.testPattern read ⟨"a"⟩ " |8" 0 ⟨(), []⟩).1 = .ok ["8"] ∧
      (Rule.several es (.other "any")).extract .extraction "9" = none := by
  intro es ex read
  obtain ⟨-, hreported, hchain, -⟩ := extract_collecting ex es "7 8"
  obtain ⟨-, -, -, hnothing⟩ := extract_collecting ex es "9"
  have hfirst : (Rule.several es .first).extract .extraction "7 8" = some (.text "7") := by decide
  obtain ⟨h, items, htext, hitems, hmem⟩ := hchain .first (by decide) _ hfirst
  cases htext
  have hread := hreported read ⟨"a"⟩ ⟨(), []⟩ _ rfl (.detailed " |8" (.group 0)) List.mem_cons_self
  exact ⟨hfirst, ⟨items, hitems, hmem⟩, (congrArg Prod.fst hread).trans (by decide),
    hnothing (by decide) _⟩

end PolicyFields.Extraction
