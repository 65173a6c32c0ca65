import PolicyFields.Extraction.Session
import PolicyFields.Proofs.Traversal

/-!
# Sessions over sources that depend on the path alone

* `Answers` — a source whose answer depends on the path alone.
* `Session.Agrees` — the invariant of the cache: it holds nothing but answers of the source.
* `Run.Yields` — a step that keeps the invariant and returns a known result under it, whatever the
  session has read before. `Yields.bind` puts steps together.
* `Extractor.rows_yields` — **a run that is not stopped is a traversal** of the documents by
  `Extractor.rowOf`, which knows neither source nor cache.
* `Extractor.rows_ok` — for any source and any interruption, the rows of a run that ends well are
  those of the first documents.
-/

namespace PolicyFields.Extraction

variable {σ α β : Type}

/-- A source whose answer depends on the path alone. A text belongs to the path however the path is
written; errors may differ in their wording. -/
structure Answers (read : Reader σ) (answer : Path → Except DocumentError String) : Prop where
  read_eq : ∀ p source, (read p source).1 = answer p
  same_path : ∀ p q text, p.components = q.components → answer p = .ok text → answer q = .ok text

/-- The cache holds nothing but answers of the source. -/
def Session.Agrees (s : Session σ) (answer : Path → Except DocumentError String) : Prop :=
  ∀ p text, s.cache.lookup p.components = some text → answer p = .ok text

theorem Session.agrees_new (answer : Path → Except DocumentError String) (source : σ) :
    (Session.mk source []).Agrees answer := by
  intro p text h
  cases h

/-! ## Steps -/

namespace Run

theorem bind_apply (r : Run σ α) (next : α → Run σ β) (s : Session σ) :
    (r >>= next) s = match r s with
      | (.ok a, s) => next a s
      | (.error e, s) => (.error e, s) := rfl

/-- A step that ends well has made all its parts end well. -/
theorem bind_ok {r : Run σ α} {next : α → Run σ β} {s : Session σ} {b : β}
    (h : ((r >>= next) s).1 = .ok b) :
    ∃ a s', r s = (.ok a, s') ∧ (next a s').1 = .ok b := by
  rw [bind_apply] at h
  split at h
  · rename_i a s' heq
    exact ⟨a, s', heq, h⟩
  · cases h

/-- The step returns `result` in every session whose cache agrees with the source, and leaves such a
session. -/
def Yields (answer : Path → Except DocumentError String) (r : Run σ α)
    (result : Except Failure α) : Prop :=
  ∀ s, s.Agrees answer → (r s).1 = result ∧ (r s).2.Agrees answer

variable {answer : Path → Except DocumentError String}

theorem Yields.pure (a : α) : Yields answer (pure a : Run σ α) (.ok a) := fun _ hs => ⟨rfl, hs⟩

theorem Yields.bind {r : Run σ α} {next : α → Run σ β} {x : Except Failure α}
    {y : α → Except Failure β} (hr : Yields answer r x)
    (hnext : ∀ a, Yields answer (next a) (y a)) : Yields answer (r >>= next) (x >>= y) := by
  intro s hs
  obtain ⟨hresult, hagrees⟩ := hr s hs
  rw [bind_apply]
  split
  · rename_i a s' heq
    rw [heq] at hresult hagrees
    rw [← hresult]
    exact hnext a s' hagrees
  · rename_i e s' heq
    rw [heq] at hresult hagrees
    rw [← hresult]
    exact ⟨rfl, hagrees⟩

end Run

/-! ## One document -/

section Source

variable {read : Reader σ} {answer : Path → Except DocumentError String}

/-- **The cache is not seen.** -/
theorem cachedText_spec (h : Answers read answer) (p : Path) {s : Session σ}
    (hs : s.Agrees answer) :
    (cachedText read p s).1 = answer p ∧ (cachedText read p s).2.Agrees answer := by
  unfold cachedText
  split
  · rename_i text htext
    exact ⟨(hs p text htext).symm, hs⟩
  · have hread := h.read_eq p s.source
    split
    · rename_i text source heq
      rw [heq] at hread
      refine ⟨hread, fun q text' hq => ?_⟩
      rw [List.lookup_cons] at hq
      split at hq
      · rename_i hqp
        obtain rfl := Option.some.inj hq
        exact h.same_path p q text (beq_iff_eq.1 hqp).symm hread.symm
      · exact hs q text' hq
    · rename_i e source heq
      rw [heq] at hread
      exact ⟨hread, hs⟩

namespace Extractor

variable (ex : Extractor)

theorem text_yields (h : Answers read answer) (p : Path) :
    (text read p).Yields answer ((answer p).mapError .document) := by
  intro s hs
  obtain ⟨hresult, hagrees⟩ := cachedText_spec h p hs
  unfold text
  split
  · rename_i t s' heq
    rw [heq] at hresult hagrees
    exact ⟨by rw [← hresult]; rfl, hagrees⟩
  · rename_i e s' heq
    rw [heq] at hresult hagrees
    exact ⟨by rw [← hresult]; rfl, hagrees⟩

theorem extractAll_yields (h : Answers read answer) (p : Path) :
    (ex.extractAll read p).Yields answer ((answer p).mapError Failure.document >>= fun t =>
      .ok (ex.fields.map fun _ finder => extractFrom t finder)) :=
  (text_yields h p).bind fun _ => .pure _

/-- What is found in one document, given the answer of the source. -/
def rowAt (answer : Path → Except DocumentError String) (d : Document) : Row :=
  ⟨d.id, ex.fields.map fun _ finder => (answer d.path).toOption.bind fun t => extractFrom t finder,
    match answer d.path with
    | .ok _ => none
    | .error e => some (.document e)⟩

/-- The row of a document, or the error that ends the run. -/
def rowOf (answer : Path → Except DocumentError String) (d : Document) : Except Failure Row :=
  match answer d.path with
  | .ok _ => .ok (ex.rowAt answer d)
  | .error e => if ex.continueOnError then .ok (ex.rowAt answer d) else .error (.document e)

theorem row_yields (h : Answers read answer) (d : Document) :
    (ex.row read d).Yields answer (ex.rowOf answer d) := by
  intro s hs
  obtain ⟨hresult, hagrees⟩ := ex.extractAll_yields h d.path s hs
  unfold row rowOf rowAt
  split
  · rename_i values s' heq
    rw [heq] at hresult hagrees
    refine ⟨?_, hagrees⟩
    cases ha : answer d.path with
    | ok t =>
      rw [ha] at hresult
      obtain rfl := Except.ok.inj hresult
      rfl
    | error e => rw [ha] at hresult; cases hresult
  · rename_i e s' heq
    rw [heq] at hresult hagrees
    cases ha : answer d.path with
    | ok t => rw [ha] at hresult; cases hresult
    | error e' =>
      rw [ha] at hresult
      obtain rfl := Except.error.inj hresult
      split
      · exact ⟨rfl, hagrees⟩
      · exact ⟨rfl, hagrees⟩

/-! ## All documents -/

theorem rows_cons {stop : Nat → σ → Bool} {k : Nat} {d : Document} {ds : List Document}
    {s : Session σ} (hstop : stop k s.source = false) :
    ex.rows read stop k (d :: ds) s = (do
      let first ← ex.row read d
      let (others, stopped) ← ex.rows read stop (k + 1) ds
      return (first :: others, stopped) : Run σ (List Row × Bool)) s := by
  simp only [rows, hstop, Bool.false_eq_true, if_false]

/-- **A run that is not stopped is a traversal of the documents.** -/
theorem rows_yields (h : Answers read answer) {stop : Nat → σ → Bool}
    (hstop : ∀ k source, stop k source = false) (documents : List Document) (k : Nat) :
    (ex.rows read stop k documents).Yields answer
      ((documents.mapM (ex.rowOf answer)).map fun rs => (rs, false)) := by
  induction documents generalizing k with
  | nil => exact .pure _
  | cons d ds ih =>
    intro s hs
    have hsplit : ((d :: ds).mapM (ex.rowOf answer)).map (fun rs => (rs, false)) =
        ex.rowOf answer d >>= fun first =>
          ((ds.mapM (ex.rowOf answer)).map fun rs => (rs, false)) >>= fun x =>
            .ok (first :: x.1, x.2) := by
      rw [Traversal.mapM_cons_eq]
      cases ex.rowOf answer d with
      | error e => rfl
      | ok first => cases ds.mapM (ex.rowOf answer) <;> rfl
    rw [ex.rows_cons (hstop k s.source), hsplit]
    exact (ex.row_yields h d).bind (fun _ => (ih (k + 1)).bind fun _ => .pure _) s hs

theorem extractCorpus_yields (h : Answers read answer) {stop : Nat → σ → Bool}
    (hstop : ∀ k source, stop k source = false) (documents : List Document) :
    (ex.extractCorpus read stop documents).Yields answer
      ((documents.mapM (ex.rowOf answer)).map fun rs => ex.collect rs false) := by
  have hsplit : (documents.mapM (ex.rowOf answer)).map (fun rs => ex.collect rs false) =
      ((documents.mapM (ex.rowOf answer)).map fun rs => (rs, false)) >>= fun x =>
        .ok (ex.collect x.1 x.2) := by
    cases documents.mapM (ex.rowOf answer) <;> rfl
  rw [hsplit]
  exact (ex.rows_yields h hstop documents 0).bind fun _ => .pure _

/-! ### Any source, any interruption -/

theorem row_id {d : Document} {s : Session σ} {r : Row} (h : (ex.row read d s).1 = .ok r) :
    r.id = d.id := by
  unfold row at h
  split at h
  · obtain rfl := Except.ok.inj h
    rfl
  · split at h
    · obtain rfl := Except.ok.inj h
      rfl
    · cases h

/-- The rows of a run that ends well are those of the first documents, of all if it is not
stopped. -/
theorem rows_ok {stop : Nat → σ → Bool} {documents : List Document} {k : Nat} {s : Session σ}
    {rs : List Row} {stopped : Bool}
    (h : (ex.rows read stop k documents s).1 = .ok (rs, stopped)) :
    rs.map Row.id = (documents.take rs.length).map Document.id ∧
      (stopped = false → rs.length = documents.length) := by
  induction documents generalizing k s rs with
  | nil =>
    obtain ⟨rfl, rfl⟩ := Prod.mk.inj (Except.ok.inj h)
    exact ⟨rfl, fun _ => rfl⟩
  | cons d ds ih =>
    cases hstop : stop k s.source with
    | true =>
      simp only [rows, hstop, if_true] at h
      obtain ⟨rfl, rfl⟩ := Prod.mk.inj (Except.ok.inj h)
      exact ⟨rfl, fun hfalse => Bool.noConfusion hfalse⟩
    | false =>
      rw [ex.rows_cons hstop] at h
      obtain ⟨first, s', hfirst, h⟩ := Run.bind_ok h
      obtain ⟨⟨others, stopped'⟩, s'', hothers, h⟩ := Run.bind_ok h
      obtain ⟨rfl, rfl⟩ := Prod.mk.inj (Except.ok.inj h)
      obtain ⟨hids, hall⟩ := ih (congrArg Prod.fst hothers)
      refine ⟨?_, fun hfalse => congrArg Nat.succ (hall hfalse)⟩
      rw [List.map_cons, ex.row_id (congrArg Prod.fst hfirst), hids]
      rfl

theorem extractCorpus_ok {stop : Nat → σ → Bool} {documents : List Document} {s : Session σ}
    {c : Corpus} (h : (ex.extractCorpus read stop documents s).1 = .ok c) :
    ∃ rs : List Row, c = ex.collect rs c.interrupted ∧
      rs.map Row.id = (documents.take rs.length).map Document.id ∧
      (c.interrupted = false → rs.length = documents.length) := by
  obtain ⟨⟨rs, stopped⟩, s', hrows, h⟩ := Run.bind_ok h
  obtain rfl := Except.ok.inj h
  exact ⟨rs, rfl, ex.rows_ok (congrArg Prod.fst hrows)⟩

end Extractor

end Source

end PolicyFields.Extraction
