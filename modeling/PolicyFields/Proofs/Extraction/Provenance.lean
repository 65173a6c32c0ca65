import PolicyFields.Proofs.Extraction.Fallback
import PolicyFields.Proofs.Regex.Spans

/-!
# Where extracted texts come from

* `CutFrom` — a text that stands in another, without blanks at its ends.
* `CutInOrder` — texts cut from stretches that do not overlap, from left to right.
* `Finder.all_cutInOrder` — **what one pattern collects is cut in order**.
* `Rule.Admits` — what a rule may find, by its kind; `extract_admitted` — **a rule finds nothing
  else**.
-/

namespace PolicyFields.Extraction

open Regex (Options Machine Match Span)

/-- `s` stands in `text` and has no blanks at its ends. -/
structure CutFrom (text s : String) : Prop where
  within : s.toList <:+: text.toList
  first : ∀ c ∈ s.toList.head?, Text.isBlank c = false
  last : ∀ c ∈ s.toList.getLast?, Text.isBlank c = false

/-- The items are cut from stretches of `text` that do not overlap, from left to right, and none is
empty. -/
structure CutInOrder (text : String) (items : List String) : Prop where
  cut : ∀ s ∈ items, s ≠ "" ∧ CutFrom text s
  stretches : ∃ spans : List Span,
    items = spans.map (fun span => String.ofList (span.slice text.toList)) ∧
      spans.Pairwise (fun a b => a.stop ≤ b.start) ∧ ∀ span ∈ spans, span.stop ≤ text.length

variable {o : Options} {text : String}

theorem CutInOrder.nil : CutInOrder text [] :=
  ⟨fun _ hs => absurd hs List.not_mem_nil, [], rfl, .nil,
    fun _ hspan => absurd hspan List.not_mem_nil⟩

/-! ## One match -/

theorem slice_isInfix (span : Span) (cs : List Char) : span.slice cs <:+: cs :=
  (List.take_prefix _ _).isInfix.trans (List.drop_suffix _ _).isInfix

/-- What is left of a stretch after trimming is a stretch. -/
theorem exists_trimChars_slice (span : Span) (cs : List Char) : ∃ trimmed : Span,
    span.start ≤ trimmed.start ∧ trimmed.stop ≤ span.stop ∧
      trimmed.slice cs = Text.trimChars (span.slice cs) := by
  obtain ⟨before, after, hslice⟩ := Text.trimChars_isInfix (span.slice cs)
  have hlength : before.length + (Text.trimChars (span.slice cs)).length ≤ span.length := by
    have htotal := congrArg List.length hslice
    have hbound : (span.slice cs).length ≤ span.length := List.length_take_le _ _
    simp only [List.length_append] at htotal
    omega
  refine ⟨⟨span.start + before.length, (Text.trimChars (span.slice cs)).length⟩,
    Nat.le_add_right _ _, by dsimp only [Span.stop]; omega, ?_⟩
  have hdrop : (span.slice cs).drop before.length =
      ((cs.drop span.start).drop before.length).take (span.length - before.length) :=
    List.drop_take
  rw [← hslice, List.append_assoc, List.drop_left, List.drop_drop] at hdrop
  calc Span.slice ⟨span.start + before.length, (Text.trimChars (span.slice cs)).length⟩ cs
      = (((cs.drop (span.start + before.length)).take (span.length - before.length)).take
          (Text.trimChars (span.slice cs)).length) := by
        rw [List.take_take, Nat.min_eq_left (by omega), Span.slice]
    _ = Text.trimChars (span.slice cs) := by rw [← hdrop, List.take_left]

theorem cutFrom_trim {cs : List Char} (h : cs <:+: text.toList) :
    CutFrom text (String.ofList (Text.trimChars cs)) := by
  refine ⟨?_, ?_, ?_⟩
  · rw [String.toList_ofList]
    exact (Text.trimChars_isInfix cs).trans h
  · rw [String.toList_ofList]
    exact fun c hc => Text.isBlank_head?_trimChars hc
  · rw [String.toList_ofList]
    exact fun c hc => Text.isBlank_getLast?_trimChars hc

/-- What a match yields is the trimmed text of one of its groups. -/
theorem exists_span_of_resolve {cs : List Char} {group : Nat} {m : Match} {s : String}
    (h : resolve cs group m = some s) : ∃ span, m.group? group = some span ∧
      s = String.ofList (Text.trimChars (span.slice cs)) := by
  obtain ⟨span, hspan, hs⟩ := Option.bind_eq_some_iff.1 h
  dsimp only at hs
  split at hs
  · cases hs
  · exact ⟨span, hspan, (Option.some.inj hs).symm⟩

theorem cutFrom_resolve {group : Nat} {m : Match} {s : String}
    (h : resolve text.toList group m = some s) : CutFrom text s := by
  obtain ⟨span, -, rfl⟩ := exists_span_of_resolve h
  exact cutFrom_trim (slice_isInfix span _)

/-- What a match yields is cut from within the match. -/
theorem exists_cut_of_resolve {cs : List Char} {group low high : Nat} {m : Match} {s : String}
    (hm : m.Within low high) (h : resolve cs group m = some s) : ∃ span : Span,
      m.whole.start ≤ span.start ∧ span.stop ≤ m.whole.stop ∧
        s = String.ofList (span.slice cs) := by
  obtain ⟨span, hspan, rfl⟩ := exists_span_of_resolve h
  obtain ⟨hstart, hstop⟩ := hm.groups group span hspan
  obtain ⟨trimmed, hleft, hright, htrimmed⟩ := exists_trimChars_slice span cs
  exact ⟨trimmed, Nat.le_trans hstart hleft, Nat.le_trans hright hstop, by rw [htrimmed]⟩

/-! ## All matches of a pattern -/

/-- What successive matches yield comes from successive stretches, each within a match. -/
theorem exists_cuts {cs : List Char} {low high : Nat} {ms : List Match} (group : Nat)
    (hordered : ms.Pairwise fun a b => a.whole.stop ≤ b.whole.start)
    (hwithin : ∀ m ∈ ms, m.Within low high) : ∃ spans : List Span,
      (ms.filterMap (resolve cs group)).filter (fun s => !s.isEmpty) =
        spans.map (fun span => String.ofList (span.slice cs)) ∧
      spans.Pairwise (fun a b => a.stop ≤ b.start) ∧
      ∀ span ∈ spans, ∃ m ∈ ms, m.whole.start ≤ span.start ∧ span.stop ≤ m.whole.stop := by
  induction ms with
  | nil => exact ⟨[], rfl, .nil, fun _ h => absurd h List.not_mem_nil⟩
  | cons m ms ih =>
    obtain ⟨hbehind, hordered⟩ := List.pairwise_cons.1 hordered
    obtain ⟨spans, hitems, hspans, hmatches⟩ :=
      ih hordered fun n hn => hwithin n (List.mem_cons_of_mem m hn)
    have hlater : ∀ span ∈ spans, ∃ n ∈ m :: ms,
        n.whole.start ≤ span.start ∧ span.stop ≤ n.whole.stop := by
      intro span hspan
      obtain ⟨n, hn, hlies⟩ := hmatches span hspan
      exact ⟨n, List.mem_cons_of_mem m hn, hlies⟩
    cases hs : resolve cs group m with
    | none => exact ⟨spans, by rw [List.filterMap_cons, hs, hitems], hspans, hlater⟩
    | some s =>
      cases hempty : s.isEmpty with
      | true =>
        refine ⟨spans, ?_, hspans, hlater⟩
        rw [List.filterMap_cons, hs, List.filter_cons_of_neg (by simp [hempty]), hitems]
      | false =>
        obtain ⟨span, hstart, hstop, rfl⟩ :=
          exists_cut_of_resolve (hwithin m List.mem_cons_self) hs
        refine ⟨span :: spans, ?_, List.pairwise_cons.2 ⟨fun later hlater => ?_, hspans⟩, ?_⟩
        · rw [List.filterMap_cons, hs, List.filter_cons_of_pos (by simp [hempty]), hitems,
            List.map_cons]
        · -- A later stretch lies in a later match, which begins behind this one.
          obtain ⟨n, hn, hlies, -⟩ := hmatches later hlater
          exact Nat.le_trans hstop (Nat.le_trans (hbehind n hn) hlies)
        · intro other hother
          rcases List.mem_cons.1 hother with rfl | hother
          · exact ⟨m, List.mem_cons_self, hstart, hstop⟩
          · exact hlater other hother

/-- **What one pattern collects is cut in order.** -/
theorem Finder.all_cutInOrder (f : Finder) (text : String) : CutInOrder text (f.all text) := by
  unfold Finder.all
  split
  · exact .nil
  · rename_i machine _
    obtain ⟨hordered, hwithin⟩ := machine.all_ordered text.toList
    refine ⟨fun s hs => ?_, ?_⟩
    · obtain ⟨hs, hempty⟩ := List.mem_filter.1 hs
      obtain ⟨m, -, hresolve⟩ := List.mem_filterMap.1 hs
      refine ⟨?_, cutFrom_resolve hresolve⟩
      rintro rfl
      cases hempty
    · obtain ⟨spans, hitems, hspans, hmatches⟩ := exists_cuts f.group hordered hwithin
      refine ⟨spans, hitems, hspans, fun span hspan => ?_⟩
      obtain ⟨m, hm, -, hstop⟩ := hmatches span hspan
      exact Nat.le_trans hstop (hwithin m hm).stop

theorem Finder.first?_cutFrom {f : Finder} {s : String} (h : f.first? text = some s) :
    CutFrom text s := by
  obtain ⟨machine, -, hm⟩ := Option.bind_eq_some_iff.1 h
  obtain ⟨m, -, hresolve⟩ := Option.bind_eq_some_iff.1 hm
  exact cutFrom_resolve hresolve

/-! ## Rules -/

/-- What an entry contributes where all matches are collected; an empty pattern nothing. -/
def Entry.items (o : Options) (text : String) (e : Entry) : List String :=
  if e.pattern = "" then [] else (FieldFinder.ofEntry o e).all text

theorem Entry.items_cutInOrder (o : Options) (text : String) (e : Entry) :
    CutInOrder text (e.items o text) := by
  unfold Entry.items
  split
  · exact .nil
  · exact Finder.all_cutInOrder _ _

/-- What a rule may find in a text, by the kind of the rule. -/
def Rule.Admits (o : Options) (text : String) : Rule → Option Extracted → Prop
  | .single _ (.group _), found => found = none ∨ ∃ s, found = some (.text s) ∧ CutFrom text s
  | .single pattern .all, found => ∃ items, found = some (.list items) ∧ CutInOrder text items ∧
      ∀ e, o.compile pattern = .error e → items = []
  | .several entries .all, found =>
    let parts := entries.map (Entry.items o text)
    (∀ part ∈ parts, CutInOrder text part) ∧
      ((found = none ∧ parts.flatten = []) ∨
        (found = some (.list parts.flatten) ∧ parts.flatten ≠ []))
  | .several _ _, found =>
    found = none ∨ ∃ s, found = some (.text s) ∧ s ≠ "" ∧ CutFrom text s

theorem extract_several_all (o : Options) (text : String) (es : List Entry) :
    (Rule.several es .all).extract o text =
      if (es.map (Entry.items o text)).flatten = [] then none
      else some (.list (es.map (Entry.items o text)).flatten) := by
  have hitems : ((es.filter fun e => !e.pattern.isEmpty).map (FieldFinder.ofEntry o)).flatMap
      (fun f => f.all text) = (es.map (Entry.items o text)).flatten := by
    induction es with
    | nil => rfl
    | cons e es ih =>
      rw [List.map_cons, List.flatten_cons, ← ih, Entry.items]
      by_cases hpattern : e.pattern = "" <;> simp [hpattern]
  have hextract : (Rule.several es .all).extract o text =
      let found := ((es.filter fun e => !e.pattern.isEmpty).map (FieldFinder.ofEntry o)).flatMap
        fun f => f.all text
      if found.isEmpty then none else some (.list found) := rfl
  rw [hextract, hitems]
  simp only [List.isEmpty_iff]

/-- What a chain finds is cut from the text and not empty. -/
theorem extract_several_cutFrom (entries : List Entry) {mode : Mode} (hmode : mode ≠ .all) :
    (Rule.several entries mode).extract o text = none ∨
      ∃ s, (Rule.several entries mode).extract o text = some (.text s) ∧ s ≠ "" ∧
        CutFrom text s := by
  rw [extract_several_eq entries hmode]
  cases hhit : entries.findSome? (Entry.hit? o text) with
  | none => exact .inl rfl
  | some s =>
    obtain ⟨e, -, he⟩ := List.exists_of_findSome?_eq_some hhit
    obtain ⟨-, hs, _, _, span, -, -, -, rfl⟩ := Entry.hit?_eq_some_iff.1 he
    exact .inr ⟨_, rfl, hs, cutFrom_trim (slice_isInfix span _)⟩

/-- **Shape and origin of what a rule finds.** A pattern with a group, and several patterns in any
mode that does not collect, yield nothing or one text; a pattern whose matches are all wanted yields
a list, also an empty one; several patterns whose matches are collected yield nothing or a list that
is not empty, part by part what each pattern contributes. Every text stands in the document and has
no blanks at its ends, and what one pattern contributes comes from stretches that do not overlap,
from left to right. -/
theorem extract_admitted (o : Options) (text : String) (r : Rule) :
    r.Admits o text (r.extract o text) := by
  match r with
  | .single pattern (.group index) =>
    cases hfound : (Finder.compile o pattern index).first? text with
    | none => exact .inl (by rw [extract_single_eq, hfound, Option.map_none])
    | some s =>
      exact .inr ⟨s, by rw [extract_single_eq, hfound, Option.map_some],
        Finder.first?_cutFrom hfound⟩
  | .single pattern .all =>
    refine ⟨_, rfl, Finder.all_cutInOrder _ _, fun e he => ?_⟩
    simp only [Finder.all, Finder.compile, he, Except.toOption]
  | .several entries .all =>
    refine ⟨fun part hpart => ?_, ?_⟩
    · obtain ⟨e, -, rfl⟩ := List.mem_map.1 hpart
      exact e.items_cutInOrder o text
    · rw [extract_several_all]
      split
      · rename_i hempty
        exact .inl ⟨rfl, hempty⟩
      · rename_i hfound
        exact .inr ⟨rfl, hfound⟩
  | .several entries .first => exact extract_several_cutFrom entries (by decide)
  | .several entries (.other word) => exact extract_several_cutFrom entries (by simp)

end PolicyFields.Extraction
