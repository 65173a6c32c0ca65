import PolicyFields.Proofs.Dict
import PolicyFields.Proofs.Extraction.Readings

/-!
# The cache of texts

An extractor keeps the texts that it has read, across all calls.

* `Call`, `Reply`, `Call.runAll` — the calls on one extractor, what they return, a sequence of them.
* `Call.asked` — the paths whose texts a call needs.
* `pinned` — a source that gives a known text for one path.
* `cache_transparent` — **the cache is not seen** in what calls return, and it bounds the readings.
-/

namespace PolicyFields.Extraction

variable {σ τ α β : Type}

/-! ## Calls -/

/-- A call on an extractor. -/
inductive Call where
  | text (p : Path)
  | field (p : Path) (name : String)
  | all (p : Path)
  | pattern (p : Path) (source : String) (group : Nat)
  /-- All documents, with a flag that shows `flags k` before document `k`. -/
  | corpus (documents : List Document) (flags : Nat → Bool)

/-- What a call returns. -/
inductive Reply where
  | text (t : String)
  | field (value : Option Extracted)
  | all (values : Dict (Option Extracted))
  | pattern (texts : List String)
  | corpus (c : Corpus)

namespace Call

/-- A call as a step. -/
def run (ex : Extractor) (read : Reader σ) : Call → Run σ Reply
  | text p => do return .text (← Extractor.text read p)
  | field p name => do return .field (← ex.extractField read p name)
  | all p => do return .all (← ex.extractAll read p)
  | pattern p source group => do return .pattern (← ex.testPattern read p source group)
  | corpus documents flags => do
    return .corpus (← ex.extractCorpus read (fun k _ => flags k) documents)

/-- Calls one after another, also after one that fails. -/
def runAll (ex : Extractor) (read : Reader σ) :
    List Call → Session σ → List (Except Failure Reply) × Session σ
  | [], s => ([], s)
  | c :: cs, s =>
    let first := c.run ex read s
    let others := runAll ex read cs first.2
    (first.1 :: others.1, others.2)

end Call

/-! ### Calls in step -/

section InStep

variable {rel : Session σ → Session τ → Prop} {read : Reader σ} {read' : Reader τ}
  (ex : Extractor)

theorem Call.run_inStep (h : Mirrors rel (fun _ => True) read read') (c : Call) :
    Run.InStep rel (c.run ex read) (c.run ex read') := by
  cases c with
  | text p => exact (Extractor.text_inStep h trivial).bind fun _ => .pure _
  | field p name => exact (ex.extractField_inStep h trivial name).bind fun _ => .pure _
  | all p => exact (ex.extractAll_inStep h trivial).bind fun _ => .pure _
  | pattern p source group =>
    exact (ex.testPattern_inStep h trivial source group).bind fun _ => .pure _
  | corpus documents flags =>
    exact (ex.extractCorpus_inStep h (fun _ _ _ _ => rfl) fun _ _ => trivial).bind
      fun _ => .pure _

theorem Call.runAll_inStep (h : Mirrors rel (fun _ => True) read read') (calls : List Call)
    (s : Session σ) (s' : Session τ) (hs : rel s s') :
    (runAll ex read calls s).1 = (runAll ex read' calls s').1 ∧
      rel (runAll ex read calls s).2 (runAll ex read' calls s').2 := by
  induction calls generalizing s s' with
  | nil => exact ⟨rfl, hs⟩
  | cons c cs ih =>
    obtain ⟨hreply, hrel⟩ := c.run_inStep ex h s s' hs
    obtain ⟨hreplies, hlast⟩ := ih _ _ hrel
    exact ⟨congrArg₂ List.cons hreply hreplies, hlast⟩

/-- What every reading keeps, every sequence of calls keeps. -/
theorem Call.runAll_keeps {inv : Session σ → Prop} (h : ∀ p s, inv s → inv (cachedText read p s).2)
    (calls : List Call) {s : Session σ} (hs : inv s) : inv (runAll ex read calls s).2 := by
  have hmirrors : Mirrors (fun s s' => s = s' ∧ inv s) (fun _ => True) read read := by
    rintro p - s _ ⟨rfl, hs⟩
    exact ⟨rfl, rfl, h p s hs⟩
  exact (runAll_inStep ex hmirrors calls s s ⟨rfl, hs⟩).2.2

end InStep

/-! ## What calls ask for -/

section Asking

variable {read : Reader σ} {answer : Path → Except DocumentError String}

/-- The step asks for the texts of `paths`, in this order. -/
def Run.Asks (answer : Path → Except DocumentError String) (r : Run (σ × Readings) α)
    (paths : List Path) : Prop :=
  ∀ p asked s, Counted answer p asked s → Counted answer p (asked ++ paths) (r s).2

namespace Run

theorem Asks.pure (a : α) : Asks answer (pure a : Run (σ × Readings) α) [] := by
  intro p asked s hs
  rwa [List.append_nil]

/-- A step followed by others that ask for nothing. -/
theorem Asks.bind_quiet {r : Run (σ × Readings) α} {next : α → Run (σ × Readings) β}
    {paths : List Path} (hr : Asks answer r paths) (hnext : ∀ a, Asks answer (next a) []) :
    Asks answer (r >>= next) paths := by
  intro p asked s hs
  have hfirst := hr p asked s hs
  rw [bind_apply]
  generalize r s = x at hfirst ⊢
  obtain ⟨e | a, t⟩ := x
  · exact hfirst
  · rw [← List.append_nil (asked ++ paths)]
    exact hnext a p _ t hfirst

/-- A step that ends well, followed by another. -/
theorem Asks.bind_ok {r : Run (σ × Readings) α} {next : α → Run (σ × Readings) β} {a : α}
    {paths others : List Path} (hr : Asks answer r paths) (ha : Yields answer r (.ok a))
    (hnext : Asks answer (next a) others) : Asks answer (r >>= next) (paths ++ others) := by
  intro p asked s hs
  have hfirst := hr p asked s hs
  obtain ⟨hresult, -⟩ := ha s hs.agrees
  rw [bind_apply]
  generalize r s = x at hfirst hresult ⊢
  obtain ⟨result, t⟩ := x
  obtain rfl : result = .ok a := hresult
  rw [← List.append_assoc]
  exact hnext p _ t hfirst

/-- A step that ends a run. -/
theorem Asks.bind_error {r : Run (σ × Readings) α} {next : α → Run (σ × Readings) β}
    {e : Failure} {paths : List Path} (hr : Asks answer r paths)
    (he : Yields answer r (.error e)) : Asks answer (r >>= next) paths := by
  intro p asked s hs
  have hfirst := hr p asked s hs
  obtain ⟨hresult, -⟩ := he s hs.agrees
  rw [bind_apply]
  generalize r s = x at hfirst hresult ⊢
  obtain ⟨result, t⟩ := x
  obtain rfl : result = .error e := hresult
  exact hfirst

end Run

namespace Extractor

variable (ex : Extractor)

theorem text_asks (h : Answers read answer) (p : Path) :
    (text (recording read) p).Asks answer [p] := by
  intro q asked s hs
  rw [text_eq]
  exact hs.cachedText h p

theorem extractAll_asks (h : Answers read answer) (p : Path) :
    (ex.extractAll (recording read) p).Asks answer [p] :=
  (text_asks h p).bind_quiet fun _ => .pure _

/-- A field without a rule needs no text. -/
theorem extractField_asks (h : Answers read answer) (p : Path) (name : String) :
    (ex.extractField (recording read) p name).Asks answer
      (if (ex.fields.find? name).join.isSome then [p] else []) := by
  unfold extractField
  rcases ex.fields.find? name with _ | _ | finder
  · exact .pure _
  · exact .pure _
  · exact (text_asks h p).bind_quiet fun _ => .pure _

theorem row_asks (h : Answers read answer) (d : Document) :
    (ex.row (recording read) d).Asks answer [d.path] := by
  intro p asked s hs
  rw [row_eq]
  exact ex.extractAll_asks h d.path p asked s hs

/-- The documents that a run comes to: those before the first at which it is stopped, and if
documents without a text end it, none behind the first such document. -/
def reached (answer : Path → Except DocumentError String) (flags : Nat → Bool) :
    Nat → List Document → List Document
  | _, [] => []
  | k, d :: ds =>
    if flags k then []
    else match answer d.path with
      | .ok _ => d :: reached answer flags (k + 1) ds
      | .error _ => if ex.continueOnError then d :: reached answer flags (k + 1) ds else [d]

theorem rows_asks (h : Answers read answer) (flags : Nat → Bool) (documents : List Document)
    (k : Nat) :
    (ex.rows (recording read) (fun k _ => flags k) k documents).Asks answer
      ((ex.reached answer flags k documents).map Document.path) := by
  induction documents generalizing k with
  | nil => exact .pure _
  | cons d ds ih =>
    intro p asked s hs
    cases hflag : flags k with
    | true =>
      simp only [rows, reached, hflag, if_true, List.map_nil, List.append_nil]
      exact hs
    | false =>
      have hrow := ex.row_yields h.recording d
      have hasks := ex.row_asks h d
      have hothers (first : Row) : Run.Asks answer (do
          let x ← ex.rows (recording read) (fun k _ => flags k) (k + 1) ds
          return (first :: x.1, x.2)) ((ex.reached answer flags (k + 1) ds).map Document.path) :=
        (ih (k + 1)).bind_quiet fun _ => .pure _
      rw [ex.rows_cons hflag]
      simp only [reached, hflag, Bool.false_eq_true, if_false]
      unfold rowOf at hrow
      cases hanswer : answer d.path with
      | ok text =>
        rw [hanswer] at hrow
        exact hasks.bind_ok hrow (hothers _) p asked s hs
      | error e =>
        rw [hanswer] at hrow
        dsimp only at hrow ⊢
        split at hrow
        · rw [if_pos ‹_›]
          exact hasks.bind_ok hrow (hothers _) p asked s hs
        · rw [if_neg ‹_›]
          exact hasks.bind_error hrow p asked s hs

end Extractor

namespace Call

/-- The paths whose texts a call asks for. -/
def asked (ex : Extractor) (answer : Path → Except DocumentError String) : Call → List Path
  | text p => [p]
  | field p name => if (ex.fields.find? name).join.isSome then [p] else []
  | all p => [p]
  | pattern p _ _ => [p]
  | corpus documents flags => (ex.reached answer flags 0 documents).map Document.path

theorem run_asks (ex : Extractor) (h : Answers read answer) (c : Call) :
    (c.run ex (recording read)).Asks answer (c.asked ex answer) := by
  cases c with
  | text p => exact (Extractor.text_asks h p).bind_quiet fun _ => .pure _
  | field p name => exact (ex.extractField_asks h p name).bind_quiet fun _ => .pure _
  | all p => exact (ex.extractAll_asks h p).bind_quiet fun _ => .pure _
  | pattern p source group =>
    exact ((Extractor.text_asks h p).bind_quiet fun _ => .pure _).bind_quiet fun _ => .pure _
  | corpus documents flags =>
    exact ((ex.rows_asks h flags documents 0).bind_quiet fun _ => .pure _).bind_quiet
      fun _ => .pure _

theorem runAll_counted (ex : Extractor) (h : Answers read answer) (calls : List Call) {p : Path}
    {before : List Path} {s : Session (σ × Readings)} (hs : Counted answer p before s) :
    Counted answer p (before ++ calls.flatMap (asked ex answer))
      (runAll ex (recording read) calls s).2 := by
  induction calls generalizing before s with
  | nil => rwa [List.flatMap_nil, List.append_nil]
  | cons c cs ih =>
    rw [List.flatMap_cons, ← List.append_assoc]
    exact ih (c.run_asks ex h p before s hs)

end Call

end Asking

/-! ## What calls return -/

namespace Call

variable {read : Reader σ} {answer : Path → Except DocumentError String} (ex : Extractor)

/-- What has been read before is not seen. -/
theorem runAll_replies (h : Answers read answer) (calls : List Call) {s fresh : Session σ}
    (hs : s.Agrees answer) (hfresh : fresh.Agrees answer) :
    (runAll ex read calls s).1 = calls.map fun c => (c.run ex read fresh).1 := by
  have hmirrors : Mirrors (fun s s' : Session σ => s.Agrees answer ∧ s'.Agrees answer)
      (fun _ => True) read read := by
    rintro p - s s' ⟨hs, hs'⟩
    obtain ⟨hresult, hagrees⟩ := cachedText_spec h p hs
    obtain ⟨hresult', hagrees'⟩ := cachedText_spec h p hs'
    exact ⟨hresult.trans hresult'.symm, hagrees, hagrees'⟩
  induction calls generalizing s with
  | nil => rfl
  | cons c cs ih =>
    obtain ⟨hreply, hagrees, -⟩ := c.run_inStep ex hmirrors s fresh ⟨hs, hfresh⟩
    exact congrArg₂ List.cons hreply (ih hagrees)

end Call

/-- A field is in one document what it is among all fields there. -/
theorem Extractor.field_agrees {read : Reader σ} {answer : Path → Except DocumentError String}
    (h : Answers read answer) (ex : Extractor) {p : Path} {name : String} {s s' : Session σ}
    (hs : s.Agrees answer) (hs' : s'.Agrees answer) {value : Option Extracted}
    {values : Dict (Option Extracted)} (hvalue : (ex.extractField read p name s).1 = .ok value)
    (hvalues : (ex.extractAll read p s').1 = .ok values) :
    value = (values.find? name).join := by
  have hall := (ex.extractAll_yields h p s' hs').1
  rw [hvalues] at hall
  cases htext : answer p with
  | error e => rw [htext] at hall; cases hall
  | ok text =>
    rw [htext] at hall
    obtain rfl := Except.ok.inj hall
    rw [Dict.find?_map]
    unfold extractField at hvalue
    rcases hfind : ex.fields.find? name with _ | _ | finder
    · rw [hfind] at hvalue
      exact (Except.ok.inj hvalue).symm
    · rw [hfind] at hvalue
      exact (Except.ok.inj hvalue).symm
    · rw [hfind] at hvalue
      have hyields : Run.Yields answer (do return finder.extract (← Extractor.text read p))
          ((answer p).mapError .document >>= fun t => .ok (finder.extract t)) :=
        (text_yields h p).bind fun _ => .pure _
      have hone := (hyields s hs).1
      rw [htext] at hone
      exact Except.ok.inj (hvalue.symm.trans hone)

/-- A source that gives a known text for one path. -/
def pinned (p : Path) (text : String) (read : Reader σ) : Reader σ := fun q source =>
  if q.components = p.components then (.ok text, source) else read q source

/-- The session without the text of a path. -/
def Session.forget (s : Session σ) (p : Path) : Session σ :=
  ⟨s.source, s.cache.filter fun entry => entry.1 != p.components⟩

/-- A session with a text of a path in its cache, and one that may lack it. -/
structure Pins (p : Path) (text : String) (s s' : Session σ) : Prop where
  source : s'.source = s.source
  kept : s.cache.lookup p.components = some text
  others : ∀ cs ≠ p.components, s'.cache.lookup cs = s.cache.lookup cs
  only : ∀ text', s'.cache.lookup p.components = some text' → text' = text

theorem lookup_filter_of_ne {cs cs' : List Path.Component} (hne : cs' ≠ cs)
    (cache : List (List Path.Component × String)) :
    (cache.filter fun entry => entry.1 != cs).lookup cs' = cache.lookup cs' := by
  induction cache with
  | nil => rfl
  | cons entry rest ih =>
    obtain ⟨key, text⟩ := entry
    by_cases hkey : key = cs
    · subst hkey
      rw [List.filter_cons_of_neg (by simp), List.lookup_cons, beq_eq_false_iff_ne.2 hne]
      exact ih
    · rw [List.filter_cons_of_pos (by simpa using hkey), List.lookup_cons, List.lookup_cons, ih]

theorem pins_forget {p : Path} {text : String} {s : Session σ}
    (h : s.cache.lookup p.components = some text) : Pins p text s (s.forget p) := by
  refine ⟨rfl, h, fun cs hne => lookup_filter_of_ne hne _, fun text' h' => ?_⟩
  obtain ⟨l₁, l₂, hcache, -⟩ := List.lookup_eq_some_iff.1 h'
  have hmem : (p.components, text') ∈ (s.forget p).cache :=
    hcache ▸ List.mem_append_right _ List.mem_cons_self
  have hne := (List.mem_filter.1 hmem).2
  simp at hne

theorem pinned_mirrors (p : Path) (text : String) (read : Reader σ) :
    Mirrors (Pins p text) (fun _ => True) read (pinned p text read) := by
  rintro q - s s' hs
  by_cases heq : q.components = p.components
  · have hkept := hs.kept
    rw [← heq] at hkept
    rw [cachedText_hit read hkept]
    cases hlookup : s'.cache.lookup q.components with
    | some text' =>
      rw [cachedText_hit (pinned p text read) hlookup]
      rw [heq] at hlookup
      exact ⟨congrArg Except.ok (hs.only text' hlookup).symm, hs⟩
    | none =>
      have hread : pinned p text read q s'.source = (.ok text, s'.source) := if_pos heq
      rw [cachedText_miss (pinned p text read) hlookup, hread]
      have hself := lookup_remembered_self hlookup (.ok text)
      rw [heq] at hself
      refine ⟨rfl, hs.source, hs.kept, fun cs hne => ?_, fun text' h' => ?_⟩
      · exact (lookup_remembered_of_ne (heq ▸ hne) _ (.ok text)).trans (hs.others cs hne)
      · exact Option.some.inj (h'.symm.trans hself)
  · have hread : pinned p text read q s'.source = read q s.source := by
      rw [hs.source]
      exact if_neg heq
    have hsame := hs.others q.components heq
    cases hlookup : s.cache.lookup q.components with
    | some text' =>
      rw [cachedText_hit read hlookup, cachedText_hit _ (hsame.trans hlookup)]
      exact ⟨rfl, hs⟩
    | none =>
      rw [cachedText_miss read hlookup, cachedText_miss _ (hsame.trans hlookup), hread]
      have hp := lookup_remembered_of_ne (p := q) (Ne.symm heq)
      refine ⟨rfl, rfl, (hp _ _).trans hs.kept, fun cs hne => ?_, fun text' h' => ?_⟩
      · by_cases hcs : cs = q.components
        · subst hcs
          exact (lookup_remembered_self (hsame.trans hlookup) _).trans
            (lookup_remembered_self hlookup _).symm
        · exact (lookup_remembered_of_ne hcs _ _).trans
            ((hs.others cs hne).trans (lookup_remembered_of_ne hcs _ _).symm)
      · exact hs.only text' ((hp _ _).symm.trans h')

/-- **The cache is not seen.** A sequence of calls on one extractor, with a record of what is read:

* The record changes nothing.
* If the answers of the source depend on the path alone, every call returns what it returns on a new
  extractor, one field is what it is among all fields, and the text of a path is read once if the
  path has one and it is asked for at all; else it is read every time it is asked for.
* For any source, a path is not read again once a reading has given a text; the cache holds no texts
  but those that have been read, so while there is none for a path the path is read again; and a
  field without a rule is not found and reads nothing.
* For any source, once a reading has given a text, later calls return what they return with a source
  that gives this text for the path whenever it is asked. -/
theorem cache_transparent (ex : Extractor) (read : Reader σ) (source : σ) (calls : List Call) :
    let run := Call.runAll ex (recording read) calls ⟨(source, []), []⟩
    let plain := Call.runAll ex read calls ⟨source, []⟩
    let readings := run.2.source.2
    (plain.1 = run.1 ∧ plain.2.source = run.2.source.1 ∧ plain.2.cache = run.2.cache) ∧
    (∀ answer, Answers read answer →
      (∀ new : σ, run.1 = calls.map fun c => (c.run ex read ⟨new, []⟩).1) ∧
      (∀ (new : σ) p name value values,
        (ex.extractField read p name ⟨new, []⟩).1 = .ok value →
        (ex.extractAll read p ⟨new, []⟩).1 = .ok values → value = (values.find? name).join) ∧
      ∀ p, occurrences p (readings.map Prod.fst) = match answer p with
        | .ok _ => min 1 (occurrences p (calls.flatMap (Call.asked ex answer)))
        | .error _ => occurrences p (calls.flatMap (Call.asked ex answer))) ∧
    readings.Pairwise
      (fun x y => x.1.components = y.1.components → ∃ e, x.2 = .error e) ∧
    (∀ entry ∈ run.2.cache, ∃ p text, entry = (p.components, text) ∧ (p, .ok text) ∈ readings) ∧
    (∀ p, (∀ q text, q.components = p.components → (q, .ok text) ∉ readings) →
      (Extractor.text (recording read) p run.2).2.source.2 =
        readings ++ [(p, (read p run.2.source.1).1)]) ∧
    (∀ p name (s : Session σ), (ex.fields.find? name).join = none →
      ex.extractField read p name s = (.ok none, s)) ∧
    ∀ p text, (p, .ok text) ∈ readings → ∀ later : List Call,
      (Call.runAll ex read later plain.2).1 =
        (Call.runAll ex (pinned p text read) later (plain.2.forget p)).1 := by
  intro run plain readings
  obtain ⟨hreplies, hsource, hcache⟩ :=
    Call.runAll_inStep ex (recording_mirrors read) calls ⟨source, []⟩ ⟨(source, []), []⟩
      ⟨rfl, rfl⟩
  have hfaithful : Faithful run.2 :=
    Call.runAll_keeps ex (fun p _ hs => Faithful.cachedText p hs) calls (faithful_new source)
  refine ⟨⟨hreplies, hsource.symm, hcache.symm⟩, fun answer h => ⟨?_, ?_, ?_⟩, hfaithful.once,
    hfaithful.stored, fun p hp => hfaithful.read_again hp, ?_, ?_⟩
  · intro new
    exact hreplies.symm.trans (Call.runAll_replies ex h calls (Session.agrees_new answer source)
      (Session.agrees_new answer new))
  · intro new p name value values
    exact ex.field_agrees h (Session.agrees_new answer new) (Session.agrees_new answer new)
  · intro p
    have hreads := (Call.runAll_counted ex h calls (counted_new p source)).reads
    rw [List.nil_append] at hreads
    refine hreads.trans ?_
    cases answer p <;> rfl
  · intro p name s hname
    unfold Extractor.extractField
    rcases hfind : ex.fields.find? name with _ | _ | finder
    · rfl
    · rfl
    · rw [hfind] at hname
      cases hname
  · intro p text hread later
    have hkept : plain.2.cache.lookup p.components = some text :=
      hcache ▸ hfaithful.kept p text hread
    exact (Call.runAll_inStep ex (pinned_mirrors p text read) later _ _ (pins_forget hkept)).1

/-- One document with a text and one without: the first is asked for three times and read once, the
second is asked for twice and read twice; a field without a rule asks for nothing. -/
theorem cache_transparent_two :
    let answer : Path → Except DocumentError String := fun p =>
      if p.components = [.name "a.pdf"] then .ok "No 7" else .error .noPages
    let read : Reader Unit := fun p source => (answer p, source)
    let set : RuleSet := ⟨none, none, Dict.ofList [("No", some (.single "No (7)" (.group 1)))]⟩
    let ex := Extractor.make "ak" set .extraction true
    let a : Path := ⟨"a.pdf"⟩
    let b : Path := ⟨"b.pdf"⟩
    let calls : List Call := [.text a, .corpus [⟨"a", a⟩, ⟨"b", b⟩] fun _ => false, .text b,
      .field a "No", .field b "Other"]
    let readings := (Call.runAll ex (recording read) calls ⟨((), []), []⟩).2.source.2
    Answers read answer ∧ occurrences a (readings.map Prod.fst) = 1 ∧
      occurrences b (readings.map Prod.fst) = 2 := by
  intro answer read set ex a b calls readings
  have hanswer : Answers read answer :=
    ⟨fun _ _ => rfl, fun p q text h hp => by simpa only [answer, h] using hp⟩
  obtain ⟨-, hpure, -⟩ := cache_transparent ex read () calls
  obtain ⟨-, -, hreads⟩ := hpure answer hanswer
  have ha : answer a = .ok "No 7" := by decide
  have hb : answer b = .error .noPages := by decide
  refine ⟨hanswer, (hreads a).trans ?_, (hreads b).trans ?_⟩
  · rw [ha]
    decide
  · rw [hb]
    decide

end PolicyFields.Extraction
