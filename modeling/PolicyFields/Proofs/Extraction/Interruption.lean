import PolicyFields.Proofs.Extraction.Session

/-!
# Runs that are stopped

The flag that stops a run is looked at before each document. What it shows may depend on the number
of the document and on the state of the source, which changes with every reading.

* `Extractor.shown` — what the flag shows before a document if the run has come that far.
* `SameOutcome` — the same error, or corpora with the same contents.
* `extractCorpus_interrupted` — **a stopped run is a complete run over the first documents**.
-/

namespace PolicyFields.Extraction

variable {σ : Type}

/-- A flag that is never set. -/
def never : Nat → σ → Bool := fun _ _ => false

/-- The same error, or corpora that differ only in whether the run was stopped. -/
inductive SameOutcome (interrupted : Bool) : Except Failure Corpus → Except Failure Corpus → Prop
  | failed (e : Failure) : SameOutcome interrupted (.error e) (.error e)
  | ended {c c' : Corpus} (fields : c'.fields = c.fields) (stats : c'.stats = c.stats)
      (failed : c'.failed = c.failed) (documents : c'.documents = c.documents)
      (marked : c'.interrupted = interrupted) : SameOutcome interrupted (.ok c) (.ok c')

namespace Extractor

variable (ex : Extractor) (read : Reader σ) (stop : Nat → σ → Bool)

/-- What the flag shows before document `k` if the documents before it have been processed, the
first of them being number `start`. -/
def shownFrom (start : Nat) (docs : List Document) (s : Session σ) (k : Nat) : Bool :=
  stop (start + k) (ex.rows read never start (docs.take k) s).2.source

/-- What the flag shows before document `k` if the documents before it have been processed. -/
def shown (docs : List Document) (s : Session σ) (k : Nat) : Bool :=
  ex.shownFrom read stop 0 docs s k

/-- A flag that follows a schedule shows what the schedule says. -/
theorem shown_schedule (flags : Nat → Bool) (docs : List Document) (s : Session σ) (k : Nat) :
    ex.shown read (fun k _ => flags k) docs s k = flags k :=
  congrArg flags (Nat.zero_add k)

variable {ex read stop}

/-- Once a document has been processed, the others are a run of their own. -/
theorem shownFrom_succ {start k : Nat} {d : Document} {ds : List Document} {s s' : Session σ}
    {first : Row} (hfirst : ex.row read d s = (.ok first, s')) :
    ex.shownFrom read stop start (d :: ds) s (k + 1) =
      ex.shownFrom read stop (start + 1) ds s' k := by
  unfold shownFrom
  rw [List.take_succ_cons, ex.rows_cons rfl, Run.bind_apply, hfirst, Nat.add_right_comm,
    Nat.add_assoc]
  dsimp only
  rw [Run.bind_apply]
  generalize ex.rows read never (start + 1) (ds.take k) s' = others
  obtain ⟨_ | _, t⟩ := others <;> rfl

/-- A run goes through the documents up to the first before which the flag is set. -/
theorem rows_until {docs : List Document} {start k : Nat} {s : Session σ} (hk : k ≤ docs.length)
    (hset : k < docs.length → ex.shownFrom read stop start docs s k = true)
    (hclear : ∀ j < k, ex.shownFrom read stop start docs s j = false) :
    ex.rows read stop start docs s =
      ((ex.rows read never start (docs.take k) s).1.map fun x => (x.1, decide (k < docs.length)),
        (ex.rows read never start (docs.take k) s).2) := by
  induction docs generalizing start k s with
  | nil =>
    obtain rfl := Nat.le_zero.1 hk
    rfl
  | cons d ds ih =>
    cases k with
    | zero =>
      have hstop : stop start s.source = true := hset (Nat.succ_pos _)
      simp only [rows, hstop, if_true]
      rfl
    | succ k =>
      have hstop : stop start s.source = false := hclear 0 (Nat.succ_pos k)
      rw [List.take_succ_cons, ex.rows_cons hstop, ex.rows_cons rfl, Run.bind_apply,
        Run.bind_apply]
      cases hrow : ex.row read d s with
      | mk result s' =>
        cases result with
        | error e => rfl
        | ok first =>
          have hrest := ih (k := k) (s := s') (Nat.le_of_succ_le_succ hk)
            (fun hlt => shownFrom_succ hrow ▸ hset (Nat.succ_lt_succ hlt))
            (fun j hj => shownFrom_succ hrow ▸ hclear (j + 1) (Nat.succ_lt_succ hj))
          dsimp only
          rw [Run.bind_apply, Run.bind_apply, hrest]
          generalize ex.rows read never (start + 1) (ds.take k) s' = others
          obtain ⟨_ | ⟨rs, stopped⟩, t⟩ := others
          · rfl
          · simp [Except.map, pure, Run.done]

/-- The same for the corpus that is collected. -/
theorem extractCorpus_until {docs : List Document} {k : Nat} {s : Session σ}
    (hk : k ≤ docs.length) (hset : k < docs.length → ex.shown read stop docs s k = true)
    (hclear : ∀ j < k, ex.shown read stop docs s j = false) :
    SameOutcome (decide (k < docs.length)) (ex.extractCorpus read never (docs.take k) s).1
        (ex.extractCorpus read stop docs s).1 ∧
      (ex.extractCorpus read stop docs s).2 = (ex.extractCorpus read never (docs.take k) s).2 := by
  unfold extractCorpus
  rw [Run.bind_apply, Run.bind_apply, rows_until hk hset hclear]
  generalize ex.rows read never 0 (docs.take k) s = complete
  obtain ⟨e | ⟨rs, stopped⟩, t⟩ := complete
  · exact ⟨.failed e, rfl⟩
  · exact ⟨.ended rfl rfl rfl rfl rfl, rfl⟩

end Extractor

/-- **A stopped run is a complete run over the first documents.** If the flag is set before document
`k` and before none of those that come first, the outcome is the error, or the fields, the counts
and the failures, of a run over the first `k` documents that nothing stops, and the corpus is marked
as interrupted. If the flag is never set, the outcome is that of a run over all documents. In both
cases the same documents have been read. -/
theorem extractCorpus_interrupted (ex : Extractor) (read : Reader σ) (stop : Nat → σ → Bool)
    (docs : List Document) (s : Session σ) :
    (∀ k < docs.length, ex.shown read stop docs s k = true →
      (∀ j < k, ex.shown read stop docs s j = false) →
      SameOutcome true (ex.extractCorpus read never (docs.take k) s).1
          (ex.extractCorpus read stop docs s).1 ∧
        (ex.extractCorpus read stop docs s).2 =
          (ex.extractCorpus read never (docs.take k) s).2) ∧
    ((∀ k < docs.length, ex.shown read stop docs s k = false) →
      SameOutcome false (ex.extractCorpus read never docs s).1
          (ex.extractCorpus read stop docs s).1 ∧
        (ex.extractCorpus read stop docs s).2 = (ex.extractCorpus read never docs s).2) := by
  constructor
  · intro k hk hset hclear
    have hcut := Extractor.extractCorpus_until (Nat.le_of_lt hk) (fun _ => hset) hclear
    rwa [decide_eq_true hk] at hcut
  · intro hclear
    have hall := Extractor.extractCorpus_until (k := docs.length) (Nat.le_refl _)
      (fun hlt => absurd hlt (Nat.lt_irrefl _)) hclear
    rwa [decide_eq_false (Nat.lt_irrefl _), List.take_length] at hall

/-- Three documents and a flag that is set before the second: a strict run does not come to the
document that has no text, and reports the first. -/
theorem extractCorpus_interrupted_second :
    let read : Reader Unit := fun p source =>
      (if p.components = [.name "a.pdf"] then .ok "No 7" else .error .noPages, source)
    let set : RuleSet := ⟨none, none, Dict.ofList [("No", some (.single "No (7)" (.group 1)))]⟩
    let ex := Extractor.make "ak" set .extraction false
    let docs : List Document := [⟨"a", ⟨"a.pdf"⟩⟩, ⟨"b", ⟨"b.pdf"⟩⟩, ⟨"c", ⟨"c.pdf"⟩⟩]
    let stop : Nat → Unit → Bool := fun k _ => [false, true, false].getD k false
    (ex.shown read stop docs ⟨(), []⟩ 0 = false ∧ ex.shown read stop docs ⟨(), []⟩ 1 = true) ∧
      ∃ c, (ex.extractCorpus read stop docs ⟨(), []⟩).1 = .ok c ∧ c.interrupted = true ∧
        c.documents = 1 ∧ c.failed = [] := by
  intro read set ex docs stop
  have hclear : ∀ j < 1, ex.shown read stop docs ⟨(), []⟩ j = false := by
    intro j hj
    obtain rfl := Nat.lt_one_iff.1 hj
    exact ex.shown_schedule read _ docs _ 0
  have hset : ex.shown read stop docs ⟨(), []⟩ 1 = true := ex.shown_schedule read _ docs _ 1
  refine ⟨⟨hclear 0 Nat.one_pos, hset⟩, ?_⟩
  have hcut := ((extractCorpus_interrupted ex read stop docs ⟨(), []⟩).1 1 (by decide) hset
    hclear).1
  cases hcut with
  | ended hfields hstats hfailed hdocuments hmarked =>
    exact ⟨_, rfl, hmarked, hdocuments, hfailed⟩

end PolicyFields.Extraction
