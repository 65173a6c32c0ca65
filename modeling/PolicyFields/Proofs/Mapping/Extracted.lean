import PolicyFields.Proofs.Extraction.Corpus
import PolicyFields.Proofs.Mapping.Accounting
import PolicyFields.Proofs.Mapping.Overflow

/-!
# Mapping what has been extracted

* `Normalizes` — what the mapping of a corpus comes to, given the fields with a number that is out
  of range.
* `mapValue_resultValue_error` — of what is found in documents only texts cannot be mapped.
* `mapArtifact_normalizes` — the mapping of a corpus comes to that, whatever the strategies are.
* `mapArtifact_extracted` — **from documents to mapped fields nothing but a number out of range
  fails**, and every field keeps the documents that were processed.
-/

namespace PolicyFields.Mapping

open Extraction (Corpus Extracted Extractor Reader Session resultValue)
open Json (Value)

variable {c : Config} {corpus : Corpus} {name : String}

/-- **What mapping a corpus comes to.** The fields in `overflows`, each with a number out of range,
are not mapped; every other field is. -/
structure Normalizes (c : Config) (corpus : Corpus) (out : Artifact) (overflows : Dict String) :
    Prop where
  names : out.fields.keys = corpus.fields.keys.filter (· != originKey)
  errors : out.errors = overflows.entries.map fun e => Config.fieldError e.1 (.overflow e.2)
  mapped : out.mapped = out.fields.keys.countP fun name => (overflows.find? name).isNone
  /-- A number out of range is the text of some document, in a field that is converted. -/
  cause : ∀ name number, overflows.find? name = some number → name ∈ out.fields.keys ∧
    ∃ rules values id text, c.fields.find? name = some (.numeric rules) ∧
      corpus.fields.find? name = some values ∧ values.find? id = some (some (.text text)) ∧
      rules.apply (.string text) = .error (.overflow number)
  /-- Fields with another strategy or without one are mapped. -/
  others : ∀ name, (∀ rules, c.fields.find? name ≠ some (.numeric rules)) →
    overflows.find? name = none
  /-- Every field keeps the ids of its documents, and nothing but such a number keeps it from being
  mapped. -/
  outcome : ∀ name values, name ≠ originKey → corpus.fields.find? name = some values →
    ∃ results, out.fields.find? name = some (.object results) ∧
      results.map Prod.fst = values.keys ∧
      FieldOutcome c name (Corpus.column values) (.object results)
        ((overflows.find? name).map .overflow)

/-! ## One field -/

/-- Of what is found in documents only texts cannot be mapped; lists and nothing can. -/
theorem mapValue_resultValue_error {v : Option Extracted} {e : MappingError}
    (h : c.mapValue name (resultValue v) = .error e) :
    ∃ rules text number, c.fields.find? name = some (.numeric rules) ∧ v = some (.text text) ∧
      e = .overflow number ∧ rules.apply (.string text) = .error (.overflow number) := by
  obtain ⟨rules, number, hs, rfl, hrules, hfull, hitems⟩ := Config.mapValue_error h
  cases v with
  | none => cases hfull
  | some found =>
    cases found with
    | text t => exact ⟨rules, t, number, hs, rfl, rfl, hrules⟩
    | list items => exact absurd rfl (hitems _)

/-- A field of a corpus is not mapped because of the text of some document. -/
theorem failure?_column {values : Dict (Option Extracted)} {e : MappingError}
    (h : c.failure? name (Corpus.column values) = some e) :
    ∃ rules id text number, c.fields.find? name = some (.numeric rules) ∧
      values.find? id = some (some (.text text)) ∧ e = .overflow number ∧
      rules.apply (.string text) = .error (.overflow number) := by
  unfold Config.failure? at h
  split at h
  · cases h
  · rename_i e' he
    obtain rfl := Option.some.inj h
    rcases Config.mapDocuments_eq_error he with ⟨hshape, -⟩ | ⟨before, d, after, hdata, -, hd⟩
    · exact absurd rfl (hshape _)
    · have hmem : d ∈ (values.map fun _ v => resultValue v).entries := by
        rw [Value.object.inj hdata]
        simp
      obtain ⟨⟨id, v⟩, hv, rfl⟩ := List.mem_map.1 hmem
      obtain ⟨rules, text, number, hs, rfl, rfl, hrules⟩ := mapValue_resultValue_error hd
      exact ⟨rules, id, text, number, hs, Dict.find?_eq_some_iff.2 hv, rfl, hrules⟩

/-! ## All fields -/

/-- The number that is out of range, if that is the error. -/
def outOfRange? : MappingError → Option String
  | .overflow number => some number
  | .notAnObject _ => none

/-- The raw artifact of a corpus. -/
abbrev rawOf (corpus : Corpus) : Dict Value :=
  corpus.fields.map fun _ values => Corpus.column values

/-- The fields of a corpus with a number that is out of range. -/
def overflowsOf (c : Config) (corpus : Corpus) : Dict String :=
  (c.failures (rawOf corpus)).filterMap fun _ e => outOfRange? e

theorem find?_rawOf {data : Value} (h : (rawOf corpus).find? name = some data) :
    ∃ values, corpus.fields.find? name = some values ∧ data = Corpus.column values := by
  rw [Dict.find?_map] at h
  obtain ⟨values, hvalues, rfl⟩ := Option.map_eq_some_iff.1 h
  exact ⟨values, hvalues, rfl⟩

/-- The fields that are not mapped are those with a number out of range. -/
theorem failures_rawOf (c : Config) (corpus : Corpus) :
    c.failures (rawOf corpus) = (overflowsOf c corpus).map fun _ number => .overflow number := by
  refine Dict.ext_find? fun name => ?_
  rw [overflowsOf, Dict.find?_map, Dict.find?_filterMap]
  cases hfailure : (c.failures (rawOf corpus)).find? name with
  | none => rfl
  | some e =>
    have hname : name ≠ originKey := Config.ne_origin_of_failures hfailure
    rw [Config.find?_failures hname] at hfailure
    obtain ⟨data, hdata, he⟩ := Option.bind_eq_some_iff.1 hfailure
    obtain ⟨values, -, rfl⟩ := find?_rawOf hdata
    obtain ⟨_, _, _, number, -, -, rfl, -⟩ := failure?_column he
    rfl

theorem find?_overflowsOf (c : Config) (corpus : Corpus) (name : String) :
    ((overflowsOf c corpus).find? name).map MappingError.overflow =
      (c.failures (rawOf corpus)).find? name := by
  rw [failures_rawOf, Dict.find?_map]

/-- **Mapping a corpus fails at numbers out of range only.** -/
theorem mapArtifact_normalizes (c : Config) (corpus : Corpus) :
    Normalizes c corpus (c.mapArtifact (rawOf corpus)) (overflowsOf c corpus) := by
  -- An overflow is traced back to the first document that could not be mapped.
  have hcause : ∀ name number, (overflowsOf c corpus).find? name = some number →
      name ∈ (c.mapArtifact (rawOf corpus)).fields.keys ∧ ∃ rules values id text,
        c.fields.find? name = some (.numeric rules) ∧ corpus.fields.find? name = some values ∧
        values.find? id = some (some (.text text)) ∧
        rules.apply (.string text) = .error (.overflow number) := by
    intro name number hnumber
    have hfailure := find?_overflowsOf c corpus name
    rw [hnumber, Option.map_some] at hfailure
    have hname : name ≠ originKey := Config.ne_origin_of_failures hfailure.symm
    rw [Config.find?_failures hname] at hfailure
    obtain ⟨data, hdata, he⟩ := Option.bind_eq_some_iff.1 hfailure.symm
    obtain ⟨values, hvalues, rfl⟩ := find?_rawOf hdata
    obtain ⟨rules, id, text, number', hrules, htext, hnumber', happly⟩ := failure?_column he
    obtain rfl := MappingError.overflow.inj hnumber'
    refine ⟨?_, rules, values, id, text, hrules, hvalues, htext, happly⟩
    rw [← Dict.isSome_find?_iff, Config.find?_fields_mapArtifact hname, hdata]
    rfl
  refine ⟨?_, ?_, ?_, hcause, ?_, ?_⟩
  · rw [c.keys_fields_mapArtifact, Dict.keys_map]
  · rw [c.errors_mapArtifact, failures_rawOf]
    exact List.map_map
  · rw [c.mapped_mapArtifact]
    refine List.countP_congr fun name _ => ?_
    rw [← find?_overflowsOf, Option.isNone_map]
  · intro name hother
    refine Option.eq_none_iff_forall_ne_some.2 fun number hnumber => ?_
    obtain ⟨-, rules, -, -, -, hrules, -⟩ := hcause name number hnumber
    exact hother rules hrules
  · intro name values hname hvalues
    have hraw : (rawOf corpus).find? name = some (Corpus.column values) := by
      rw [Dict.find?_map, hvalues, Option.map_some]
    obtain ⟨results, hresults, hids⟩ := c.mapField_ids name
      (values.map fun _ v => resultValue v).entries
    refine ⟨results, ?_, hids.trans (Dict.keys_map _ values), ?_⟩
    · rw [Config.find?_fields_mapArtifact hname, hraw, Option.map_some]
      exact congrArg some hresults
    · rw [find?_overflowsOf, Config.find?_failures hname, hraw, Option.bind_some, ← hresults]
      exact c.mapField_outcome name _

/-- **From documents to mapped fields, nothing but a number out of range fails.** Whatever the
source, the rules and the strategies are, the fields of a run that ends well are those of the
extractor, each with the ids of the documents that were processed. Their mapping keeps these ids and
leaves errors of one kind only: a number out of range, in a field that is converted to numbers, at a
document where a text was found. -/
theorem mapArtifact_extracted {σ : Type} {ex : Extractor} {read : Reader σ}
    {stop : Nat → σ → Bool} {docs : List Document} {s : Session σ} {corpus : Corpus}
    (hrun : (ex.extractCorpus read stop docs s).1 = .ok corpus) (c : Config) :
    corpus.fields.keys = ex.fields.keys ∧
    (∀ name values, corpus.fields.find? name = some values → ∀ id, id ∈ values.keys ↔
      id ∈ (docs.take corpus.documents).map Document.id) ∧
    ∃ raw overflows, corpus.artifact.dict? = some raw ∧
      Normalizes c corpus (c.mapArtifact raw) overflows := by
  obtain ⟨rs, hcorpus, hids, -⟩ := ex.extractCorpus_ok hrun
  refine ⟨?_, ?_, _, _, corpus.artifact_dict?, mapArtifact_normalizes c corpus⟩
  · rw [hcorpus, Extractor.keys_fields_collect]
  · intro name values hvalues id
    rw [hcorpus, Extractor.find?_fields_collect] at hvalues
    obtain ⟨-, -, rfl⟩ := Option.map_eq_some_iff.1 hvalues
    have hdocuments : corpus.documents = rs.length := by
      rw [hcorpus]
      rfl
    rw [Dict.mem_keys_ofList, List.map_map, hdocuments, ← hids]
    rfl

/-- A text whose product with a factor has more than 64 bits, and a field that is not found. -/
theorem mapArtifact_extracted_overflow :
    let set : Extraction.RuleSet :=
      ⟨none, none, Dict.ofList [("Sum", some (.single "9" (.group 0))), ("No", none)]⟩
    let read : Reader Unit := fun _ source => (.ok "9", source)
    let rules : NumericRules :=
      ⟨[⟨"9", .null, ⟨false, 10000000000000000000, 0⟩⟩], .integer, some true, none⟩
    let c : Config := ⟨"ak", "1.0", Dict.ofList [("Sum", .numeric rules)]⟩
    ∃ corpus raw overflows, ((Extractor.make "ak" set .extraction true).extractCorpus read
        (fun _ _ => false) [⟨"a", ⟨"a.pdf"⟩⟩] ⟨(), []⟩).1 = .ok corpus ∧
      corpus.artifact.dict? = some raw ∧ Normalizes c corpus (c.mapArtifact raw) overflows ∧
      (c.mapArtifact raw).errors =
        ["Error mapping field 'Sum': numeric value out of range: 90000000000000000000"] := by
  intro set read rules c
  have hrun : ((Extractor.make "ak" set .extraction true).extractCorpus read
    (fun _ _ => false) [⟨"a", ⟨"a.pdf"⟩⟩] ⟨(), []⟩).1 = .ok _ := rfl
  obtain ⟨-, -, raw, overflows, hraw, hnormalizes⟩ := mapArtifact_extracted hrun c
  refine ⟨_, raw, overflows, hrun, hraw, hnormalizes, ?_⟩
  obtain rfl := Option.some.inj (hraw.symm.trans (Corpus.artifact_dict? _))
  decide +kernel

end PolicyFields.Mapping
