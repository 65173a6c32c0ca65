import PolicyFields.Proofs.Extraction.Session

/-!
# Two sessions in step

* `Run.InStep` — steps of two sessions that return the same and keep the sessions related;
  `InStep.bind` puts them together.
* `Mirrors` — two sources that, in related sessions, give the same text or the same error for every
  path of a set.
* `Extractor.extractCorpus_inStep` — **whatever is done with mirroring sources, one document or all
  of them, is done in step**.
-/

namespace PolicyFields.Extraction

variable {σ τ α β : Type} {rel : Session σ → Session τ → Prop}

/-! ## Steps -/

namespace Run

/-- From related sessions both steps return the same, and they leave related sessions. -/
def InStep (rel : Session σ → Session τ → Prop) (r : Run σ α) (r' : Run τ α) : Prop :=
  ∀ s s', rel s s' → (r s).1 = (r' s').1 ∧ rel (r s).2 (r' s').2

theorem InStep.pure (a : α) : InStep rel (pure a : Run σ α) (pure a : Run τ α) :=
  fun _ _ hs => ⟨rfl, hs⟩

theorem InStep.bind {r : Run σ α} {r' : Run τ α} {next : α → Run σ β} {next' : α → Run τ β}
    (hr : InStep rel r r') (hnext : ∀ a, InStep rel (next a) (next' a)) :
    InStep rel (r >>= next) (r' >>= next') := by
  intro s s' hs
  obtain ⟨hresult, hrel⟩ := hr s s' hs
  rw [bind_apply, bind_apply]
  generalize r s = x at hresult hrel ⊢
  generalize r' s' = x' at hresult hrel ⊢
  obtain ⟨result, t⟩ := x
  obtain ⟨result', t'⟩ := x'
  obtain rfl : result = result' := hresult
  cases result with
  | ok a => exact hnext a t t' hrel
  | error e => exact ⟨rfl, hrel⟩

end Run

/-- In related sessions two sources give the same for the paths of a set. -/
def Mirrors (rel : Session σ → Session τ → Prop) (paths : Path → Prop) (read : Reader σ)
    (read' : Reader τ) : Prop :=
  ∀ p, paths p → ∀ s s', rel s s' → (cachedText read p s).1 = (cachedText read' p s').1 ∧
    rel (cachedText read p s).2 (cachedText read' p s').2

/-! ## One document -/

namespace Extractor

open Run (InStep)

variable {paths : Path → Prop} {read : Reader σ} {read' : Reader τ} (ex : Extractor)

theorem text_eq (read : Reader σ) (p : Path) (s : Session σ) : text read p s =
    ((cachedText read p s).1.mapError .document, (cachedText read p s).2) := by
  unfold text
  split
  · rename_i heq
    rw [heq]
    rfl
  · rename_i heq
    rw [heq]
    rfl

theorem text_inStep (h : Mirrors rel paths read read') {p : Path} (hp : paths p) :
    InStep rel (text read p) (text read' p) := by
  intro s s' hs
  obtain ⟨hresult, hrel⟩ := h p hp s s' hs
  rw [text_eq, text_eq]
  exact ⟨congrArg (Except.mapError Failure.document) hresult, hrel⟩

theorem extractField_inStep (h : Mirrors rel paths read read') {p : Path} (hp : paths p)
    (field : String) :
    InStep rel (ex.extractField read p field) (ex.extractField read' p field) := by
  unfold extractField
  split
  · exact (text_inStep h hp).bind fun _ => .pure _
  · exact .pure _

theorem extractAll_inStep (h : Mirrors rel paths read read') {p : Path} (hp : paths p) :
    InStep rel (ex.extractAll read p) (ex.extractAll read' p) :=
  (text_inStep h hp).bind fun _ => .pure _

theorem testPattern_inStep (h : Mirrors rel paths read read') {p : Path} (hp : paths p)
    (pattern : String) (group : Nat) :
    InStep rel (ex.testPattern read p pattern group) (ex.testPattern read' p pattern group) :=
  (text_inStep h hp).bind fun _ => .pure _

/-! ## All documents -/

theorem row_eq (read : Reader σ) (d : Document) (s : Session σ) : ex.row read d s =
    (match (ex.extractAll read d.path s).1 with
      | .ok values => .ok ⟨d.id, values, none⟩
      | .error e => if ex.continueOnError then .ok ⟨d.id, ex.fields.map fun _ _ => none, some e⟩
        else .error e, (ex.extractAll read d.path s).2) := by
  unfold row
  split
  · rename_i heq
    rw [heq]
  · rename_i heq
    rw [heq]
    dsimp only
    split <;> rfl

theorem row_inStep (h : Mirrors rel paths read read') {d : Document} (hd : paths d.path) :
    InStep rel (ex.row read d) (ex.row read' d) := by
  intro s s' hs
  obtain ⟨hresult, hrel⟩ := ex.extractAll_inStep h hd s s' hs
  rw [row_eq, row_eq, hresult]
  exact ⟨rfl, hrel⟩

variable {stop : Nat → σ → Bool} {stop' : Nat → τ → Bool}

/-- Runs over documents are in step if they are stopped before the same documents. -/
theorem rows_inStep (h : Mirrors rel paths read read')
    (hstop : ∀ k s s', rel s s' → stop k s.source = stop' k s'.source)
    {documents : List Document} (hd : ∀ d ∈ documents, paths d.path) (k : Nat) :
    InStep rel (ex.rows read stop k documents) (ex.rows read' stop' k documents) := by
  induction documents generalizing k with
  | nil => exact .pure _
  | cons d ds ih =>
    obtain ⟨hfirst, hothers⟩ := List.forall_mem_cons.1 hd
    intro s s' hs
    cases hflag : stop k s.source with
    | true =>
      have hflag' : stop' k s'.source = true := hstop k s s' hs ▸ hflag
      simp only [rows, hflag, hflag', if_true]
      exact ⟨trivial, hs⟩
    | false =>
      rw [ex.rows_cons hflag, ex.rows_cons (hstop k s s' hs ▸ hflag)]
      exact ((ex.row_inStep h hfirst).bind fun _ =>
        (ih hothers (k + 1)).bind fun _ => .pure _) s s' hs

theorem extractCorpus_inStep (h : Mirrors rel paths read read')
    (hstop : ∀ k s s', rel s s' → stop k s.source = stop' k s'.source)
    {documents : List Document} (hd : ∀ d ∈ documents, paths d.path) :
    InStep rel (ex.extractCorpus read stop documents) (ex.extractCorpus read' stop' documents) :=
  (ex.rows_inStep h hstop hd 0).bind fun _ => .pure _

end Extractor

end PolicyFields.Extraction
