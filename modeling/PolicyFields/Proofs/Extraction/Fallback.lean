import Mathlib.Data.List.Basic
import PolicyFields.Extraction.Engine
import PolicyFields.Proofs.Regex.Groups

/-!
# Chains of patterns

Several patterns in a mode other than `all` form a chain: a pattern counts only where those before
it find nothing.

* `Entry.Finds` — what one entry of a chain finds in a text.
* `tryInTurn_eq` — **stopping at the first hit cannot be observed**.
* `extract_chain` — **a chain yields what its first entry that finds something finds**, in every
  such mode, and entries that can never find anything may stand anywhere.
* `extract_chain_singles` — a chain against its entries as rules of their own: **the first result
  counts that is not empty**.
-/

namespace PolicyFields.Extraction

open Regex (Options Machine Match)

variable {o : Options} {text : String} {e : Entry} {es : List Entry}

/-! ## Hits -/

/-- What the first match yields, unless it is empty. -/
def Finder.hit? (f : Finder) (text : String) : Option String :=
  (f.first? text).filter fun s => !s.isEmpty

theorem Finder.hit?_eq_some_iff {f : Finder} {s : String} :
    f.hit? text = some s ↔ f.first? text = some s ∧ s ≠ "" := by
  rw [hit?, Option.filter_eq_some_iff]
  simp

theorem Finder.first?_compile {pattern s : String} {index : Nat} :
    (Finder.compile o pattern index).first? text = some s ↔ ∃ machine found,
      o.compile pattern = .ok machine ∧ machine.first? text.toList = some found ∧
        resolve text.toList index found = some s := by
  rw [first?, compile, Option.bind_eq_some_iff]
  constructor
  · rintro ⟨machine, hmachine, hfirst⟩
    obtain ⟨found, hfound, hs⟩ := Option.bind_eq_some_iff.1 hfirst
    cases hcompile : o.compile pattern with
    | error e => rw [hcompile] at hmachine; cases hmachine
    | ok m =>
      rw [hcompile] at hmachine
      obtain rfl := Option.some.inj hmachine
      exact ⟨_, found, rfl, hfound, hs⟩
  · rintro ⟨machine, found, hmachine, hfound, hs⟩
    exact ⟨machine, by rw [hmachine]; rfl, Option.bind_eq_some_iff.2 ⟨found, hfound, hs⟩⟩

/-- What a match yields, if that is not empty: no other group than the whole match may be empty, but
this one would yield nothing else than the empty text. -/
theorem resolve_eq_some_iff {cs : List Char} {index : Nat} {m : Match} {s : String} (hs : s ≠ "") :
    resolve cs index m = some s ↔
      ∃ span, m.group? index = some span ∧ s = String.ofList (Text.trimChars (span.slice cs)) := by
  rw [resolve, Option.bind_eq_some_iff]
  refine exists_congr fun span => and_congr_right fun _ => ?_
  dsimp only
  constructor
  · intro h
    split at h
    · cases h
    · exact (Option.some.inj h).symm
  · rintro rfl
    refine if_neg fun hempty => hs ?_
    rw [List.isEmpty_iff.1 hempty.2]
    rfl

theorem FieldFinder.tryInTurn_cons_of_none {f : Finder} (h : f.hit? text = none)
    (stopAtHit : Bool) (hit : Option String) (fs : List Finder) :
    tryInTurn stopAtHit text hit (f :: fs) = tryInTurn stopAtHit text hit fs := by
  rw [Finder.hit?] at h
  rw [tryInTurn, h]

theorem FieldFinder.tryInTurn_cons_of_some {f : Finder} {s : String} (h : f.hit? text = some s)
    (stopAtHit : Bool) (hit : Option String) (fs : List Finder) :
    tryInTurn stopAtHit text hit (f :: fs) = if stopAtHit then hit.or (some s)
      else tryInTurn stopAtHit text (hit.or (some s)) fs := by
  rw [Finder.hit?] at h
  rw [tryInTurn, h]

/-- **Stopping at the first hit cannot be observed**, because the first hit is kept anyway. -/
theorem FieldFinder.tryInTurn_eq (stopAtHit : Bool) (hit : Option String) (fs : List Finder) :
    tryInTurn stopAtHit text hit fs = hit.or (fs.findSome? fun f => f.hit? text) := by
  induction fs generalizing hit with
  | nil => rw [tryInTurn, List.findSome?_nil, Option.or_none]
  | cons f fs ih =>
    rw [List.findSome?_cons]
    cases hhit : f.hit? text with
    | none => rw [tryInTurn_cons_of_none hhit, ih]
    | some s =>
      rw [tryInTurn_cons_of_some hhit]
      cases stopAtHit with
      | true => rfl
      | false => rw [if_neg (by decide), ih, Option.or_assoc, Option.some_or]

namespace Entry

/-- The group of an entry in a chain; all matches means the first match as a whole. -/
def groupIndex (e : Entry) : Nat :=
  match e.selection with
  | .group index => index
  | .all => 0

/-- An entry finds `s` in a text: its pattern is not empty and compiles, the group takes part in its
first match, and what the group holds, trimmed, is `s` and not empty. -/
def Finds (o : Options) (text : String) (e : Entry) (s : String) : Prop :=
  e.pattern ≠ "" ∧ s ≠ "" ∧ ∃ machine found span, o.compile e.pattern = .ok machine ∧
    machine.first? text.toList = some found ∧ found.group? e.groupIndex = some span ∧
    s = String.ofList (Text.trimChars (span.slice text.toList))

/-- What an entry finds in a text. -/
def hit? (o : Options) (text : String) (e : Entry) : Option String :=
  if e.pattern = "" then none else (FieldFinder.ofEntry o e).hit? text

theorem hit?_eq_some_iff {s : String} : e.hit? o text = some s ↔ e.Finds o text s := by
  rw [hit?, Finds]
  split
  · rename_i hempty
    exact ⟨fun h => (by cases h), fun h => absurd hempty h.1⟩
  · rename_i hpattern
    have hgroup : FieldFinder.ofEntry o e = Finder.compile o e.pattern e.groupIndex := rfl
    rw [Finder.hit?_eq_some_iff, hgroup, Finder.first?_compile]
    constructor
    · rintro ⟨⟨machine, found, hmachine, hfound, hresolve⟩, hs⟩
      obtain ⟨span, hspan, htext⟩ := (resolve_eq_some_iff hs).1 hresolve
      exact ⟨hpattern, hs, machine, found, span, hmachine, hfound, hspan, htext⟩
    · rintro ⟨-, hs, machine, found, span, hmachine, hfound, hspan, htext⟩
      have hresolve := (resolve_eq_some_iff hs).2 ⟨span, hspan, htext⟩
      exact ⟨⟨machine, found, hmachine, hfound, hresolve⟩, hs⟩

/-- Whether an entry can never find anything: its pattern is empty or does not compile, or it has
no group of the index. -/
def isBarren (o : Options) (e : Entry) : Bool :=
  e.pattern.isEmpty || match o.compile e.pattern with
    | .error _ => true
    | .ok machine => machine.groupCount ≤ e.groupIndex

theorem hit?_of_isBarren (h : e.isBarren o = true) : e.hit? o text = none := by
  refine Option.eq_none_iff_forall_ne_some.2 fun s hs => ?_
  obtain ⟨hpattern, -, machine, found, span, hmachine, hfound, hspan, -⟩ := hit?_eq_some_iff.1 hs
  rw [isBarren, hmachine, Bool.or_eq_true, String.isEmpty_iff, decide_eq_true_eq] at h
  have hcount := h.resolve_left hpattern
  rw [Machine.group?_eq_none hmachine hfound hcount] at hspan
  cases hspan

end Entry

/-! ## Chains -/

/-- What a rule finds in a text, once it is compiled. -/
def Rule.extract (o : Options) (text : String) (r : Rule) : Option Extracted :=
  (FieldFinder.compile o r).extract text

/-- Entries that can never find anything do not count. -/
theorem findSome?_filter_not_isBarren (es : List Entry) :
    (es.filter fun e => !e.isBarren o).findSome? (Entry.hit? o text) =
      es.findSome? (Entry.hit? o text) := by
  rw [← List.head?_filterMap, ← List.head?_filterMap, List.filterMap_filter]
  congr 2
  funext e
  cases hbarren : e.isBarren o with
  | true => exact (Entry.hit?_of_isBarren hbarren).symm
  | false => rfl

theorem extract_several_eq (es : List Entry) {mode : Mode} (hmode : mode ≠ .all) :
    (Rule.several es mode).extract o text = (es.findSome? (Entry.hit? o text)).map .text := by
  have hfinders : ((es.filter fun e => !e.pattern.isEmpty).map (FieldFinder.ofEntry o)).findSome?
      (fun f => f.hit? text) = es.findSome? (Entry.hit? o text) := by
    rw [← List.head?_filterMap, ← List.head?_filterMap, List.filterMap_map, List.filterMap_filter]
    congr 2
    funext e
    rw [Entry.hit?]
    by_cases hpattern : e.pattern = "" <;> simp [hpattern]
  have hextract : (Rule.several es mode).extract o text =
      (FieldFinder.tryInTurn (mode == .first) text none
        ((es.filter fun e => !e.pattern.isEmpty).map (FieldFinder.ofEntry o))).map .text := by
    cases mode with
    | all => exact absurd rfl hmode
    | first => rfl
    | other word => rfl
  rw [hextract, FieldFinder.tryInTurn_eq, Option.none_or, hfinders]

/-- What a chain yields in a text: what the first entry that finds something finds. -/
inductive Yields (o : Options) (text : String) : List Entry → Option Extracted → Prop
  | nothing {es : List Entry} : (∀ e ∈ es, ∀ s, ¬ e.Finds o text s) → Yields o text es none
  | first {before after : List Entry} {e : Entry} {s : String} :
    (∀ d ∈ before, ∀ t, ¬ d.Finds o text t) → e.Finds o text s →
    Yields o text (before ++ e :: after) (some (.text s))

theorem findSome?_hit?_eq_none_iff :
    es.findSome? (Entry.hit? o text) = none ↔ ∀ e ∈ es, ∀ s, ¬ e.Finds o text s := by
  rw [List.findSome?_eq_none_iff]
  refine forall₂_congr fun e _ => ?_
  rw [Option.eq_none_iff_forall_ne_some]
  exact forall_congr' fun s => not_congr Entry.hit?_eq_some_iff

theorem yields_iff {r : Option Extracted} :
    Yields o text es r ↔ r = (es.findSome? (Entry.hit? o text)).map .text := by
  constructor
  · rintro (hnone | ⟨hbefore, hfinds⟩)
    · rw [findSome?_hit?_eq_none_iff.2 hnone, Option.map_none]
    · rw [List.findSome?_append, findSome?_hit?_eq_none_iff.2 hbefore, Option.none_or,
        List.findSome?_cons, Entry.hit?_eq_some_iff.2 hfinds, Option.map_some]
  · rintro rfl
    cases hhit : es.findSome? (Entry.hit? o text) with
    | none => exact .nothing (findSome?_hit?_eq_none_iff.1 hhit)
    | some s =>
      obtain ⟨before, e, after, rfl, he, hbefore⟩ := List.findSome?_eq_some_iff.1 hhit
      refine .first ?_ (Entry.hit?_eq_some_iff.1 he)
      exact findSome?_hit?_eq_none_iff.1 (List.findSome?_eq_none_iff.2 hbefore)

/-- **A chain yields what its first entry that finds something finds**, whatever the mode is, as
long as it does not collect all matches. So stopping at the first hit changes nothing, and nothing
changes either if entries that can never find anything are put in or left out, wherever they
stand. -/
theorem extract_chain (o : Options) (es : List Entry) {mode : Mode} (hmode : mode ≠ .all)
    (text : String) :
    (∀ r, (Rule.several es mode).extract o text = r ↔ Yields o text es r) ∧
      (Rule.several es mode).extract o text = (Rule.several es .first).extract o text ∧
      ∀ es', (es'.filter fun e => !e.isBarren o) = (es.filter fun e => !e.isBarren o) →
        (Rule.several es' mode).extract o text = (Rule.several es mode).extract o text := by
  refine ⟨fun r => ?_, ?_, fun es' hes => ?_⟩
  · rw [yields_iff, extract_several_eq es hmode, eq_comm]
  · rw [extract_several_eq es hmode, extract_several_eq es (by decide)]
  · rw [extract_several_eq es hmode, extract_several_eq es' hmode,
      ← findSome?_filter_not_isBarren es', hes, findSome?_filter_not_isBarren]

/-- A blank hit is passed over, and entries are put in that are empty, do not compile or have no
such group. -/
theorem extract_chain_mixed :
    let es : List Entry := [.detailed " " (.group 0), .detailed "7" .all]
    let es' : List Entry :=
      [.bare "", .detailed " " (.group 0), .bare "(", .detailed "7" (.group 3), .detailed "7" .all]
    Yields .extraction "no 7" es (some (.text "7")) ∧
      (Rule.several es' (.other "any")).extract .extraction "no 7" = some (.text "7") := by
  intro es es'
  have hmode : Mode.other "any" ≠ .all := by decide
  obtain ⟨hyields, -, hbarren⟩ := extract_chain .extraction es hmode "no 7"
  have hextract : (Rule.several es (.other "any")).extract .extraction "no 7" =
      some (.text "7") := by decide
  exact ⟨(hyields _).1 hextract, (hbarren es' (by decide)).trans hextract⟩

/-! ## Chains and single patterns -/

theorem extract_single_eq (pattern : String) (index : Nat) :
    (Rule.single pattern (.group index)).extract o text =
      ((Finder.compile o pattern index).first? text).map .text := rfl

/-- An entry of a chain finds what its pattern finds alone, unless that is empty. -/
theorem hit?_eq_filter_single {index : Nat} (hpattern : e.pattern ≠ "")
    (hindex : e.selection = .group index) : (e.hit? o text).map .text =
      ((Rule.single e.pattern e.selection).extract o text).filter (· != .text "") := by
  have hentry : FieldFinder.ofEntry o e = Finder.compile o e.pattern index := by
    rw [FieldFinder.ofEntry, hindex]
  rw [hindex, extract_single_eq, Entry.hit?, if_neg hpattern, hentry, Finder.hit?]
  cases (Finder.compile o e.pattern index).first? text with
  | none => rfl
  | some s => by_cases hs : s = "" <;> simp [Option.filter, hs]

/-- **A chain in mode `first` yields the first result that is not empty** of its patterns, each
searched for alone. A pattern alone may yield the empty text, where its match or its group is blank;
in a chain such a result counts as none. -/
theorem extract_chain_singles (o : Options) (text : String) {es : List Entry}
    (hes : ∀ e ∈ es, e.pattern ≠ "" ∧ ∃ index, e.selection = .group index) :
    (Rule.several es .first).extract o text = (es.findSome? fun e =>
        ((Rule.single e.pattern e.selection).extract o text).filter (· != .text "")) ∧
      ∀ pattern index, pattern ≠ "" →
        (Rule.several [.detailed pattern (.group index)] .first).extract o text =
          if (Rule.single pattern (.group index)).extract o text = some (.text "") then none
          else (Rule.single pattern (.group index)).extract o text := by
  constructor
  · rw [extract_several_eq es (by decide), List.map_findSome?, ← List.head?_filterMap,
      ← List.head?_filterMap]
    congr 1
    refine List.filterMap_congr fun e he => ?_
    obtain ⟨hpattern, index, hindex⟩ := hes e he
    exact hit?_eq_filter_single hpattern hindex
  · intro pattern index hpattern
    have hsingle : ((Entry.detailed pattern (.group index)).hit? o text).map .text =
        ((Rule.single pattern (.group index)).extract o text).filter (· != .text "") :=
      hit?_eq_filter_single hpattern rfl
    rw [extract_several_eq _ (by decide), List.findSome?_singleton, hsingle]
    cases (Rule.single pattern (.group index)).extract o text with
    | none => rfl
    | some r => by_cases hr : r = .text "" <;> simp [Option.filter, hr]

/-- A pattern whose hit is blank stands before one whose hit is not. -/
theorem extract_chain_singles_blank :
    (Rule.several [.detailed " " (.group 0), .detailed "7" (.group 0)] .first).extract .extraction
        "no 7" = some (.text "7") ∧
      (Rule.several [.detailed "7" (.group 0)] .first).extract .extraction "no 7" =
        (Rule.single "7" (.group 0)).extract .extraction "no 7" := by
  have hes : ∀ e ∈ [Entry.detailed " " (.group 0), .detailed "7" (.group 0)],
      e.pattern ≠ "" ∧ ∃ index, e.selection = .group index := by
    simp [Entry.pattern, Entry.selection]
  obtain ⟨hchain, hone⟩ := extract_chain_singles .extraction "no 7" hes
  exact ⟨hchain.trans (by decide), (hone "7" 0 (by decide)).trans (if_neg (by decide))⟩

/-- A blank match: the pattern alone yields the empty text, a chain of this one pattern yields
nothing. -/
theorem extract_chain_ne_single :
    let e : Entry := .detailed " " (.group 0)
    (e.pattern ≠ "" ∧ ∃ index, e.selection = .group index) ∧
      ([e].findSome? fun e => (Rule.single e.pattern e.selection).extract .extraction " ") =
        some (.text "") ∧
      (Rule.several [e] .first).extract .extraction " " = none :=
  ⟨⟨by decide, 0, rfl⟩, by decide, by decide⟩

end PolicyFields.Extraction
