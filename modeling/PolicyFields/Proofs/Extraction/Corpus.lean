import PolicyFields.Proofs.Dict
import PolicyFields.Proofs.Extraction.Session

/-!
# What a run over documents reports

* `found` — what a rule finds in a document, given the document's text if it has one.
* `Corpus.Reports` — the corpus that some rules and the answers of a source determine: for every
  field and every document what is found, the documents without text, and the counts.
* `Corpus.summary_eq_stats` — the counts of a run and those that are computed from its artifact
  are the same.
* `extractCorpus_reports` — **a run over documents with distinct ids reports them**. A tolerant run
  always does; a strict run does iff every document has a text, and else ends with the error of the
  first that has none.
-/

namespace PolicyFields.Extraction

open Json (Value)

variable {σ : Type}

/-- What the rule of a field, if it has one, finds in the text of a document, if it has one. -/
def found (o : Regex.Options) (rule : Option Rule) (text : Option String) : Option Extracted :=
  rule.bind fun r => text.bind fun t => (FieldFinder.compile o r).extract t

/-- **The corpus that rules and answers determine.** -/
structure Corpus.Reports (c : Corpus) (set : RuleSet) (o : Regex.Options)
    (answer : Path → Except DocumentError String) (docs : List Document) : Prop where
  names : c.fields.keys = set.rules.keys
  ids : ∀ name values, c.fields.find? name = some values →
    values.keys.Perm (docs.map Document.id)
  entries : ∀ name rule values, set.rules.find? name = some rule →
    c.fields.find? name = some values →
    ∀ d ∈ docs, values.find? d.id = some (found o rule (answer d.path).toOption)
  failed : c.failed = docs.filterMap fun d => match answer d.path with
    | .ok _ => none
    | .error e => some (d.id, .document e)
  documents : c.documents = docs.length
  interrupted : c.interrupted = false
  stats_names : c.stats.keys = set.rules.keys
  stats : ∀ name values, c.fields.find? name = some values →
    c.stats.find? name = some ⟨values.values.countP Option.isSome, docs.length⟩
  successful : ∀ name rule, set.rules.find? name = some rule →
    c.stats.find? name = some
      ⟨docs.countP fun d => (found o rule (answer d.path).toOption).isSome, docs.length⟩

/-! ## The counts of a run and of its artifact -/

namespace Corpus

theorem find?_stats (c : Corpus) (name : String) :
    c.stats.find? name = (c.fields.find? name).map fun values =>
      ⟨values.values.countP Option.isSome, c.documents⟩ :=
  Dict.find?_map _ _ _

/-- What a field is in every document, as JSON. -/
def column (values : Dict (Option Extracted)) : Value :=
  .ofDict (values.map fun _ v => resultValue v)

theorem artifact_dict? (c : Corpus) :
    c.artifact.dict? = some (c.fields.map fun _ values => column values) :=
  congrArg some (Dict.ofList_entries _)

theorem isNull_resultValue (v : Option Extracted) : (resultValue v).isNull = !v.isSome := by
  rcases v with _ | (_ | _) <;> rfl

theorem ofPresence_resultValue (values : Dict (Option Extracted)) :
    FieldStats.ofPresence
        ((values.map fun _ v => resultValue v).entries.map fun d => !d.2.isNull) =
      ⟨values.values.countP Option.isSome, values.size⟩ := by
  simp only [FieldStats.ofPresence, Dict.map, Dict.values, Dict.size, List.map_map,
    List.length_map, FieldStats.mk.injEq, and_true, List.count, List.countP_map]
  refine List.countP_congr fun e _ => ?_
  simp [isNull_resultValue]

/-- The two ways of counting agree on every field that has an entry for every document. -/
theorem summary_eq_stats {c : Corpus} {raw : Dict Value} {name : String} (threshold : Float)
    (hraw : c.artifact.dict? = some raw) (hname : name.toList.head? ≠ some '_')
    (hsize : ∀ values, c.fields.find? name = some values → values.size = c.documents) :
    (Summary.ofArtifact raw threshold).fields.find? name = c.stats.find? name := by
  rw [artifact_dict?] at hraw
  obtain rfl := Option.some.inj hraw
  rw [Summary.ofArtifact, Dict.find?_filterMap, Dict.find?_map, find?_stats]
  cases hvalues : c.fields.find? name with
  | none => rfl
  | some values =>
    have hhead : (name.toList.head? == some '_') = false := beq_eq_false_iff_ne.2 hname
    simp only [Option.map_some, Option.bind_some, hhead, Bool.false_eq_true, if_false, column,
      Value.ofDict, ofPresence_resultValue, hsize values hvalues]

end Corpus

/-! ## Collected rows -/

namespace Extractor

theorem find?_fields_collect (ex : Extractor) (rs : List Row) (stopped : Bool) (name : String) :
    (ex.collect rs stopped).fields.find? name = (ex.fields.find? name).map fun _ =>
      Dict.ofList (rs.map fun r => (r.id, (r.values.find? name).join)) :=
  Dict.find?_map _ _ _

theorem keys_fields_collect (ex : Extractor) (rs : List Row) (stopped : Bool) :
    (ex.collect rs stopped).fields.keys = ex.fields.keys :=
  Dict.keys_map _ _

variable {company : String} {set : RuleSet} {o : Regex.Options} {tolerant : Bool}
  {answer : Path → Except DocumentError String}

theorem find?_fields_make (name : String) :
    (make company set o tolerant).fields.find? name =
      (set.rules.find? name).map (Option.map (FieldFinder.compile o)) :=
  Dict.find?_map _ _ _

theorem find?_rowAt {name : String} {rule : Option Rule} (h : set.rules.find? name = some rule)
    (d : Document) :
    (((make company set o tolerant).rowAt answer d).values.find? name).join =
      found o rule (answer d.path).toOption := by
  rw [rowAt, Dict.find?_map, find?_fields_make, h]
  cases rule <;> cases (answer d.path).toOption <;> rfl

/-- The column of a field. -/
theorem find?_fields_collect_rowAt {name : String} {rule : Option Rule}
    (h : set.rules.find? name = some rule) (docs : List Document) :
    ((make company set o tolerant).collect
        (docs.map ((make company set o tolerant).rowAt answer)) false).fields.find? name =
      some (Dict.ofList
        (docs.map fun d => (d.id, found o rule (answer d.path).toOption))) := by
  rw [find?_fields_collect, find?_fields_make, h, List.map_map]
  simp only [Option.map_some, Function.comp_def, find?_rowAt h]
  rfl

theorem reports_collect {docs : List Document} (hids : (docs.map Document.id).Nodup) :
    ((make company set o tolerant).collect
      (docs.map ((make company set o tolerant).rowAt answer)) false).Reports set o answer docs := by
  -- Every column lists what is found in the documents, each document under its own id.
  have hkeys : ∀ rule : Option Rule,
      ((docs.map fun d => (d.id, found o rule (answer d.path).toOption)).map Prod.fst).Nodup := by
    intro rule
    rwa [List.map_map]
  have hcolumn : ∀ name values,
      ((make company set o tolerant).collect
        (docs.map ((make company set o tolerant).rowAt answer)) false).fields.find? name =
          some values →
      ∃ rule, set.rules.find? name = some rule ∧
        values = Dict.ofList (docs.map fun d => (d.id, found o rule (answer d.path).toOption)) := by
    intro name values hvalues
    cases hrule : set.rules.find? name with
    | none =>
      rw [find?_fields_collect, find?_fields_make, hrule] at hvalues
      cases hvalues
    | some rule =>
      rw [find?_fields_collect_rowAt hrule] at hvalues
      exact ⟨rule, rfl, (Option.some.inj hvalues).symm⟩
  refine ⟨?_, ?_, ?_, ?_, List.length_map _, rfl, ?_, ?_, ?_⟩
  · rw [keys_fields_collect, make, Dict.keys_map]
  · intro name values hvalues
    obtain ⟨rule, -, rfl⟩ := hcolumn name values hvalues
    have hperm := (Dict.entries_ofList_perm (hkeys rule)).map Prod.fst
    rwa [List.map_map] at hperm
  · intro name rule values hrule hvalues d hd
    obtain ⟨rule', hrule', rfl⟩ := hcolumn name values hvalues
    obtain rfl := Option.some.inj (hrule.symm.trans hrule')
    rw [Dict.find?_ofList_of_nodup (hkeys rule), Dict.lookup_eq_some_iff_mem (hkeys rule)]
    exact List.mem_map_of_mem hd
  · rw [collect, List.filterMap_map]
    refine List.filterMap_congr fun d _ => ?_
    simp only [Function.comp_apply, rowAt]
    cases answer d.path <;> rfl
  · rw [Corpus.stats, Dict.keys_map, keys_fields_collect, make, Dict.keys_map]
  · intro name values hvalues
    rw [Corpus.find?_stats, hvalues, Option.map_some]
    simp only [collect, List.length_map]
  · intro name rule hrule
    rw [Corpus.find?_stats, find?_fields_collect_rowAt hrule, Option.map_some]
    have hperm := (Dict.entries_ofList_perm (hkeys rule)).map Prod.snd
    rw [Dict.values, hperm.countP_eq, List.map_map, List.countP_map]
    simp only [collect, List.length_map]
    rfl

/-! ## Tolerant and strict runs -/

variable {read : Reader σ} {stop : Nat → σ → Bool} {docs : List Document} {s : Session σ}

theorem tolerant_run (hanswer : Answers read answer)
    (hstop : ∀ k source, stop k source = false) (hs : s.Agrees answer) (docs : List Document) :
    ((make company set o true).extractCorpus read stop docs s).1 =
      .ok ((make company set o true).collect
        (docs.map ((make company set o true).rowAt answer)) false) := by
  have hrow : ∀ d ∈ docs, (make company set o true).rowOf answer d =
      .ok ((make company set o true).rowAt answer d) := by
    intro d _
    unfold rowOf
    cases answer d.path <;> rfl
  rw [((make company set o true).extractCorpus_yields hanswer hstop docs s hs).1,
    Traversal.mapM_eq_ok_map hrow]
  rfl

theorem strict_run_ok (hanswer : Answers read answer)
    (hstop : ∀ k source, stop k source = false) (hs : s.Agrees answer)
    (hread : ∀ d ∈ docs, ∃ t, answer d.path = .ok t) :
    ((make company set o false).extractCorpus read stop docs s).1 =
      .ok ((make company set o false).collect
        (docs.map ((make company set o false).rowAt answer)) false) := by
  have hrow : ∀ d ∈ docs, (make company set o false).rowOf answer d =
      .ok ((make company set o false).rowAt answer d) := by
    intro d hd
    obtain ⟨t, ht⟩ := hread d hd
    simp only [rowOf, ht]
  rw [((make company set o false).extractCorpus_yields hanswer hstop docs s hs).1,
    Traversal.mapM_eq_ok_map hrow]
  rfl

theorem strict_run_error (hanswer : Answers read answer)
    (hstop : ∀ k source, stop k source = false) (hs : s.Agrees answer)
    {before after : List Document} {d : Document} {e : DocumentError}
    (hbefore : ∀ p ∈ before, ∃ t, answer p.path = .ok t) (he : answer d.path = .error e) :
    ((make company set o false).extractCorpus read stop (before ++ d :: after) s).1 =
      .error (.document e) := by
  have herror : (before ++ d :: after).mapM ((make company set o false).rowOf answer) =
      .error (.document e) := by
    refine Traversal.mapM_eq_error_iff.2 ⟨before, d, after, rfl, fun p hp => ?_, ?_⟩
    · obtain ⟨t, ht⟩ := hbefore p hp
      exact ⟨_, by simp only [rowOf, ht]; rfl⟩
    · simp only [rowOf, he]
      rfl
  rw [((make company set o false).extractCorpus_yields hanswer hstop _ s hs).1, herror]
  rfl

/-- Either all documents have a text or there is a first that has none. -/
theorem first_unreadable (answer : Path → Except DocumentError String) (docs : List Document) :
    (∀ d ∈ docs, ∃ t, answer d.path = .ok t) ∨
      ∃ before d after e, docs = before ++ d :: after ∧
        (∀ p ∈ before, ∃ t, answer p.path = .ok t) ∧ answer d.path = .error e := by
  cases h : docs.mapM fun d => answer d.path with
  | ok texts =>
    left
    intro d hd
    obtain ⟨n, hn, rfl⟩ := List.mem_iff_getElem.1 hd
    have hall := Traversal.mapM_eq_ok_iff.1 h
    exact ⟨_, hall.get hn (hall.length_eq ▸ hn)⟩
  | error e =>
    obtain ⟨before, d, after, hdocs, hbefore, hd⟩ := Traversal.mapM_eq_error_iff.1 h
    exact .inr ⟨before, d, after, e, hdocs, hbefore, hd⟩

end Extractor

/-- **A run over documents with distinct ids reports them.** A tolerant run that is not stopped ends
well with the corpus that the rules and the answers of the source determine, whose counts are those
of its artifact and which does not depend on the order of the documents. A strict run ends with the
same corpus iff every document has a text, and otherwise with the error of the first that has none.
A new session agrees with every source, because its cache is empty. -/
theorem extractCorpus_reports {read : Reader σ} {answer : Path → Except DocumentError String}
    (hanswer : Answers read answer) {stop : Nat → σ → Bool}
    (hstop : ∀ k source, stop k source = false) (company : String) (set : RuleSet)
    (o : Regex.Options) {docs : List Document} (hids : (docs.map Document.id).Nodup)
    {s : Session σ} (hs : s.Agrees answer) :
    ∃ c : Corpus,
      ((Extractor.make company set o true).extractCorpus read stop docs s).1 = .ok c ∧
      c.Reports set o answer docs ∧
      (∀ threshold raw name, c.artifact.dict? = some raw → name.toList.head? ≠ some '_' →
        (Summary.ofArtifact raw threshold).fields.find? name = c.stats.find? name) ∧
      (∀ docs' : List Document, docs'.Perm docs → ∃ c' : Corpus,
        ((Extractor.make company set o true).extractCorpus read stop docs' s).1 = .ok c' ∧
          c'.fields = c.fields ∧ c'.stats = c.stats) ∧
      ((∃ c' : Corpus,
          ((Extractor.make company set o false).extractCorpus read stop docs s).1 = .ok c') ↔
        ∀ d ∈ docs, ∃ t, answer d.path = .ok t) ∧
      ((∀ d ∈ docs, ∃ t, answer d.path = .ok t) →
        ((Extractor.make company set o false).extractCorpus read stop docs s).1 = .ok c) ∧
      ∀ before d after e, docs = before ++ d :: after →
        (∀ p ∈ before, ∃ t, answer p.path = .ok t) → answer d.path = .error e →
        ((Extractor.make company set o false).extractCorpus read stop docs s).1 =
          .error (.document e) := by
  have hreports : ((Extractor.make company set o true).collect
      (docs.map ((Extractor.make company set o true).rowAt answer)) false).Reports set o answer
        docs := Extractor.reports_collect hids
  refine ⟨_, Extractor.tolerant_run hanswer hstop hs docs, hreports, ?_, ?_, ?_,
    Extractor.strict_run_ok hanswer hstop hs, ?_⟩
  · intro threshold raw name hraw hname
    refine Corpus.summary_eq_stats threshold hraw hname fun values hvalues => ?_
    rw [← Dict.length_keys, (hreports.ids name values hvalues).length_eq, List.length_map,
      hreports.documents]
  · intro docs' hperm
    refine ⟨_, Extractor.tolerant_run hanswer hstop hs docs', ?_⟩
    have hfields : ∀ rs rs' : List Row, rs'.Perm rs → (rs.map Row.id).Nodup →
        ((Extractor.make company set o true).collect rs' false).fields =
          ((Extractor.make company set o true).collect rs false).fields := by
      intro rs rs' hrs hnodup
      refine Dict.ext_find? fun name => ?_
      rw [Extractor.find?_fields_collect, Extractor.find?_fields_collect]
      congr 1
      funext _
      refine (Dict.ofList_perm (hrs.symm.map _) ?_).symm
      rwa [List.map_map]
    have hsame := hfields _ _ (hperm.map ((Extractor.make company set o true).rowAt answer))
      (by rwa [List.map_map])
    refine ⟨hsame, ?_⟩
    rw [Corpus.stats, Corpus.stats, hsame]
    simp only [Extractor.collect, List.length_map, hperm.length_eq]
  · refine ⟨fun ⟨c', hc'⟩ => ?_, fun hread => ⟨_, Extractor.strict_run_ok hanswer hstop hs hread⟩⟩
    rcases Extractor.first_unreadable answer docs with hread | ⟨_, _, _, _, rfl, hbefore, he⟩
    · exact hread
    · rw [Extractor.strict_run_error hanswer hstop hs hbefore he] at hc'
      cases hc'
  · rintro before d after e rfl hbefore he
    exact Extractor.strict_run_error hanswer hstop hs hbefore he

/-- One document with a text and one without: the tolerant run reports both, the strict run ends at
the second. -/
theorem extractCorpus_reports_two :
    let answer : Path → Except DocumentError String := fun p =>
      if p.components = [.name "a.pdf"] then .ok "No 7" else .error .noPages
    let read : Reader Unit := fun p source => (answer p, source)
    let set : RuleSet := ⟨none, none, Dict.ofList [("No", some (.single "No (7)" (.group 1)))]⟩
    let docs : List Document := [⟨"a", ⟨"a.pdf"⟩⟩, ⟨"b", ⟨"b.pdf"⟩⟩]
    let stop : Nat → Unit → Bool := fun _ _ => false
    let run := fun tolerant =>
      ((Extractor.make "ak" set .extraction tolerant).extractCorpus read stop docs ⟨(), []⟩).1
    Answers read answer ∧ (docs.map Document.id).Nodup ∧ (Session.mk () []).Agrees answer ∧
      (∃ c, run true = .ok c ∧ c.documents = 2 ∧ c.failed = [("b", .document .noPages)]) ∧
      run false = .error (.document .noPages) := by
  intro answer read set docs stop run
  have hanswer : Answers read answer :=
    ⟨fun _ _ => rfl, fun p q text h hp => by simpa only [answer, h] using hp⟩
  have hids : (docs.map Document.id).Nodup := by decide
  have hs : (Session.mk () []).Agrees answer := Session.agrees_new answer ()
  have hstop : ∀ k source, stop k source = false := fun _ _ => rfl
  obtain ⟨c, hrun, hreports, -, -, -, -, hstrict⟩ :=
    extractCorpus_reports hanswer hstop "ak" set .extraction hids hs
  have ha : answer ⟨"a.pdf"⟩ = .ok "No 7" := by decide
  have hb : answer ⟨"b.pdf"⟩ = .error .noPages := by decide
  refine ⟨hanswer, hids, hs, ⟨c, hrun, hreports.documents, ?_⟩, ?_⟩
  · rw [hreports.failed]
    simp only [docs, List.filterMap_cons, ha, hb, List.filterMap_nil]
  · refine hstrict [⟨"a", ⟨"a.pdf"⟩⟩] ⟨"b", ⟨"b.pdf"⟩⟩ [] .noPages rfl ?_ hb
    intro p hp
    obtain rfl := List.mem_singleton.1 hp
    exact ⟨_, ha⟩

end PolicyFields.Extraction
