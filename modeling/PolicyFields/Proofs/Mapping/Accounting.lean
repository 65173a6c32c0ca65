import PolicyFields.Mapping.Artifact
import PolicyFields.Proofs.Dict
import PolicyFields.Proofs.Traversal

/-!
# Accounting of mapped artifacts

* `FieldOutcome` — the three things that can become of a field: it is mapped in full, its data are
  no object, or one of its documents cannot be mapped.
* `mapField_outcome` — mapping a field has exactly one of these outcomes; the second and the third
  leave its data as they were.
* `Config.Accounts` — what an artifact says of the fields that it has seen. `Accounts.addField`
  keeps it for one field more, `accounts_mapArtifact` has it for all.
* `Config.failures` — the fields that were not mapped, with their errors, in the order of the names.
* `mapArtifact_accounts` — **every field of the raw artifact is accounted for**: it is mapped or has
  one error, and nothing but its own data and its own strategy has a part in it.
-/

namespace PolicyFields.Mapping

open Json (Value)
open Traversal

variable {c : Config} {name : String} {data : Value}

/-- What becomes of the data of a field, and the error that it leaves. -/
inductive FieldOutcome (c : Config) (name : String) : Value → Value → Option MappingError → Prop where
  /-- Every document keeps its id and has its mapped value. -/
  | mapped {documents results : List (String × Value)} :
      List.Forall₂ (fun d r => r.1 = d.1 ∧ c.mapValue name d.2 = .ok r.2) documents results →
      FieldOutcome c name (.object documents) (.object results) none
  /-- There are no documents. -/
  | shapeless {data : Value} : (∀ documents, data ≠ .object documents) →
      FieldOutcome c name data data (some (.notAnObject name))
  /-- The first document that cannot be mapped gives the error. -/
  | refused {before after : List (String × Value)} {d : String × Value} {e : MappingError} :
      (∀ p ∈ before, ∃ v, c.mapValue name p.2 = .ok v) → c.mapValue name d.2 = .error e →
      FieldOutcome c name (.object (before ++ d :: after)) (.object (before ++ d :: after)) (some e)

namespace Config

/-- The data of a field after mapping: those it had if anything fails. -/
def mapField (c : Config) (name : String) (data : Value) : Value :=
  match c.mapDocuments name data with
  | .ok documents => .object documents
  | .error _ => data

/-- Why a field is not mapped, if it is not. -/
def failure? (c : Config) (name : String) (data : Value) : Option MappingError :=
  match c.mapDocuments name data with
  | .ok _ => none
  | .error e => some e

/-- The fields of a raw artifact that are not mapped, with the reason. -/
def failures (c : Config) (raw : Dict Value) : Dict MappingError :=
  (raw.filter fun name _ => name != originKey).filterMap c.failure?

/-! ## One field -/

/-- One document in the traversal of `mapDocuments`. -/
theorem mapDocument_eq_ok_iff {d r : String × Value} :
    (do return (d.1, ← c.mapValue name d.2) : Except MappingError (String × Value)) = .ok r ↔
      r.1 = d.1 ∧ c.mapValue name d.2 = .ok r.2 :=
  keyed_eq_ok_iff

theorem mapDocument_eq_error_iff {d : String × Value} {e : MappingError} :
    (do return (d.1, ← c.mapValue name d.2) : Except MappingError (String × Value)) = .error e ↔
      c.mapValue name d.2 = .error e :=
  keyed_eq_error_iff

theorem mapDocuments_eq_ok_iff {results : List (String × Value)} :
    c.mapDocuments name data = .ok results ↔ ∃ documents, data = .object documents ∧
      List.Forall₂ (fun d r => r.1 = d.1 ∧ c.mapValue name d.2 = .ok r.2) documents results := by
  cases data with
  | object documents =>
    rw [mapDocuments, mapM_eq_ok_iff]
    simp only [mapDocument_eq_ok_iff, Value.object.injEq, exists_eq_left']
  | null | bool _ | number _ | string _ | array _ => simp [mapDocuments]

theorem mapDocuments_eq_error {e : MappingError} (h : c.mapDocuments name data = .error e) :
    ((∀ documents, data ≠ .object documents) ∧ e = .notAnObject name) ∨
      ∃ before d after, data = .object (before ++ d :: after) ∧
        (∀ p ∈ before, ∃ v, c.mapValue name p.2 = .ok v) ∧ c.mapValue name d.2 = .error e := by
  cases data with
  | object documents =>
    right
    obtain ⟨before, d, after, rfl, hbefore, hd⟩ := mapM_eq_error_iff.1 h
    refine ⟨before, d, after, rfl, fun p hp => ?_, mapDocument_eq_error_iff.1 hd⟩
    obtain ⟨r, hr⟩ := hbefore p hp
    exact ⟨r.2, (mapDocument_eq_ok_iff.1 hr).2⟩
  | null | bool _ | number _ | string _ | array _ =>
    exact .inl ⟨by simp, (Except.error.inj h).symm⟩

/-- **A field is mapped in full, or keeps its data and leaves one error.** -/
theorem mapField_outcome (c : Config) (name : String) (data : Value) :
    FieldOutcome c name data (c.mapField name data) (c.failure? name data) := by
  unfold mapField failure?
  cases h : c.mapDocuments name data with
  | ok results =>
    obtain ⟨documents, rfl, hd⟩ := mapDocuments_eq_ok_iff.1 h
    exact .mapped hd
  | error e =>
    rcases mapDocuments_eq_error h with ⟨hdata, rfl⟩ | ⟨before, d, after, rfl, hbefore, hd⟩
    · exact .shapeless hdata
    · exact .refused hbefore hd

/-- The documents of a field keep their ids, whether it is mapped or not. -/
theorem mapField_ids (c : Config) (name : String) (documents : List (String × Value)) :
    ∃ results, c.mapField name (.object documents) = .object results ∧
      results.map Prod.fst = documents.map Prod.fst := by
  unfold mapField
  split
  · rename_i results hok
    obtain ⟨ds, hds, hall⟩ := mapDocuments_eq_ok_iff.1 hok
    obtain rfl := Value.object.inj hds
    refine ⟨results, rfl, ?_⟩
    clear hok hds
    induction hall with
    | nil => rfl
    | cons hd _ ih => rw [List.map_cons, List.map_cons, hd.1, ih]
  · exact ⟨documents, rfl, rfl⟩

/-! ## One field after the other -/

/-- What an artifact says when it has seen the fields `seen`. -/
structure Accounts (c : Config) (seen : List (String × Value)) (a : Artifact) : Prop where
  company : a.company = c.company
  version : a.version = c.version
  fields : a.fields = Dict.ofList (seen.map fun e => (e.1, c.mapField e.1 e.2))
  total : a.total = seen.length
  mapped : a.mapped = seen.countP fun e => (c.failure? e.1 e.2).isNone
  errors : a.errors = seen.filterMap fun e => (c.failure? e.1 e.2).map (fieldError e.1)

theorem accounts_blank (c : Config) : c.Accounts [] c.blank := ⟨rfl, rfl, rfl, rfl, rfl, rfl⟩

/-- A field is added with its data after mapping, counted, and counted as mapped or with its
error. -/
theorem addField_eq (c : Config) (a : Artifact) (e : String × Value) :
    c.addField a e.1 e.2 = { a with
      fields := a.fields.insert e.1 (c.mapField e.1 e.2)
      total := a.total + 1
      mapped := a.mapped + if (c.failure? e.1 e.2).isNone then 1 else 0
      errors := a.errors ++ ((c.failure? e.1 e.2).map (fieldError e.1)).toList } := by
  unfold addField mapField failure?
  cases c.mapDocuments e.1 e.2 with
  | ok documents => simp
  | error f => simp

theorem Accounts.addField {seen : List (String × Value)} {a : Artifact} (h : c.Accounts seen a)
    (e : String × Value) : c.Accounts (seen ++ [e]) (c.addField a e.1 e.2) := by
  rw [addField_eq]
  refine ⟨h.company, h.version, ?_, ?_, ?_, ?_⟩
  · simp only [h.fields, Dict.ofList, List.map_append, List.foldl_append]
    rfl
  · simp only [h.total, List.length_append, List.length_singleton]
  · simp only [h.mapped, List.countP_append, List.countP_singleton]
  · rw [List.filterMap_append, ← h.errors, List.filterMap_cons, List.filterMap_nil]
    cases (c.failure? e.1 e.2).map (fieldError e.1) <;> rfl

theorem Accounts.foldl {seen : List (String × Value)} {a : Artifact} (h : c.Accounts seen a)
    (es : List (String × Value)) :
    c.Accounts (seen ++ es) (es.foldl (fun a e => c.addField a e.1 e.2) a) := by
  induction es generalizing seen a with
  | nil => rwa [List.append_nil]
  | cons e es ih =>
    have hes := ih (h.addField e)
    rwa [List.append_assoc] at hes

/-- **The artifact says of the fields of the raw artifact what it should.** -/
theorem accounts_mapArtifact (c : Config) (raw : Dict Value) :
    c.Accounts (raw.filter fun name _ => name != originKey).entries (c.mapArtifact raw) :=
  (accounts_blank c).foldl _

/-! ## All fields -/

theorem fields_mapArtifact (c : Config) (raw : Dict Value) :
    (c.mapArtifact raw).fields =
      (raw.filter fun name _ => name != originKey).map c.mapField :=
  (c.accounts_mapArtifact raw).fields.trans (Dict.ofList_entries (Dict.map c.mapField _))

theorem find?_fields_mapArtifact {raw : Dict Value} (hname : name ≠ originKey) :
    (c.mapArtifact raw).fields.find? name = (raw.find? name).map (c.mapField name) := by
  rw [fields_mapArtifact, Dict.find?_map, Dict.find?_filter_ne, if_neg hname]

theorem find?_fields_origin (raw : Dict Value) :
    (c.mapArtifact raw).fields.find? originKey = none := by
  rw [fields_mapArtifact, Dict.find?_map, Dict.find?_filter_ne, if_pos rfl, Option.map_none]

theorem keys_fields_mapArtifact (c : Config) (raw : Dict Value) :
    (c.mapArtifact raw).fields.keys = raw.keys.filter (· != originKey) := by
  rw [fields_mapArtifact, Dict.keys_map, Dict.keys_filter (· != originKey)]

/-- Every field is counted once, because names are distinct. -/
theorem total_mapArtifact (c : Config) (raw : Dict Value) :
    (c.mapArtifact raw).total = (c.mapArtifact raw).fields.keys.length := by
  rw [(c.accounts_mapArtifact raw).total, fields_mapArtifact, Dict.keys_map, Dict.length_keys,
    Dict.size]

theorem find?_failures {raw : Dict Value} (hname : name ≠ originKey) :
    (c.failures raw).find? name = (raw.find? name).bind (c.failure? name) := by
  rw [failures, Dict.find?_filterMap, Dict.find?_filter_ne, if_neg hname]

theorem ne_origin_of_failures {raw : Dict Value} {e : MappingError}
    (h : (c.failures raw).find? name = some e) : name ≠ originKey := by
  rintro rfl
  rw [failures, Dict.find?_filterMap, Dict.find?_filter_ne, if_pos rfl] at h
  cases h

theorem errors_mapArtifact (c : Config) (raw : Dict Value) :
    (c.mapArtifact raw).errors = (c.failures raw).entries.map fun e => fieldError e.1 e.2 := by
  rw [(c.accounts_mapArtifact raw).errors, failures, Dict.filterMap, List.map_filterMap]
  refine List.filterMap_congr fun e _ => ?_
  cases c.failure? e.1 e.2 <;> rfl

/-- Fields are either counted as mapped or have an error. -/
theorem mapped_add_size_failures (c : Config) (raw : Dict Value) :
    (c.mapArtifact raw).mapped + (c.failures raw).size = (c.mapArtifact raw).total := by
  rw [(c.accounts_mapArtifact raw).mapped, (c.accounts_mapArtifact raw).total, failures, Dict.size,
    Dict.filterMap, List.length_filterMap_eq_countP,
    List.length_eq_countP_add_countP fun e => (c.failure? e.1 e.2).isNone]
  congr 1
  refine List.countP_congr fun e _ => ?_
  cases c.failure? e.1 e.2 <;> simp

/-- Fields are counted as mapped unless they have an error. -/
theorem mapped_mapArtifact (c : Config) (raw : Dict Value) :
    (c.mapArtifact raw).mapped = (c.mapArtifact raw).fields.keys.countP fun name =>
      ((c.failures raw).find? name).isNone := by
  rw [(c.accounts_mapArtifact raw).mapped, fields_mapArtifact, Dict.keys_map, Dict.keys,
    List.countP_map]
  refine List.countP_congr fun e he => ?_
  have hfailure : (c.failures raw).find? e.1 = c.failure? e.1 e.2 := by
    rw [failures, Dict.find?_filterMap, Dict.find?_eq_some_iff.2 he, Option.bind_some]
  rw [Function.comp_apply, hfailure]

/-- The origin that a raw artifact tells has no part in the result. -/
theorem mapArtifact_congr {raw raw' : Dict Value}
    (h : ∀ name, name ≠ originKey → raw'.find? name = raw.find? name) :
    c.mapArtifact raw' = c.mapArtifact raw := by
  have hsame : raw'.filter (fun name _ => name != originKey) =
      raw.filter fun name _ => name != originKey := by
    refine Dict.ext_find? fun name => ?_
    rw [Dict.find?_filter_ne, Dict.find?_filter_ne]
    by_cases hname : name = originKey
    · rw [if_pos hname, if_pos hname]
    · rw [if_neg hname, if_neg hname, h name hname]
  simp only [mapArtifact, hsame]

theorem mapField_congr {c' : Config} (h : c'.fields.find? name = c.fields.find? name) :
    c'.mapField name data = c.mapField name data := by
  have hvalue : ∀ v, c'.mapValue name v = c.mapValue name v := by
    intro v
    simp only [mapValue, h]
  unfold mapField mapDocuments
  simp only [hvalue]

end Config

/-- **Every field of a raw artifact is accounted for.** The fields of the result are those of the
raw artifact but for its origin, and they split into those that are mapped and those that have one
error each, in the order of the names. A field comes out the same whatever the other fields and
the other strategies are, and the origin that the raw artifact tells changes nothing. -/
theorem mapArtifact_accounts (c : Config) (raw : Dict Value) :
    (c.mapArtifact raw).fields.keys = raw.keys.filter (· != originKey) ∧
    (c.mapArtifact raw).total = (c.mapArtifact raw).fields.keys.length ∧
    (c.mapArtifact raw).mapped + (c.mapArtifact raw).errors.length = (c.mapArtifact raw).total ∧
    (∃ failures : Dict MappingError,
      (c.mapArtifact raw).errors = failures.entries.map (fun e => Config.fieldError e.1 e.2) ∧
      (∀ name ∈ failures.keys, name ∈ (c.mapArtifact raw).fields.keys) ∧
      ∀ name data, name ≠ originKey → raw.find? name = some data →
        ∃ out, (c.mapArtifact raw).fields.find? name = some out ∧
          FieldOutcome c name data out (failures.find? name)) ∧
    (∀ (c' : Config) (raw' : Dict Value) (name : String),
      c'.fields.find? name = c.fields.find? name → raw'.find? name = raw.find? name →
      (c'.mapArtifact raw').fields.find? name = (c.mapArtifact raw).fields.find? name) ∧
    (∀ raw' : Dict Value, (∀ name, name ≠ originKey → raw'.find? name = raw.find? name) →
      c.mapArtifact raw' = c.mapArtifact raw) := by
  refine ⟨c.keys_fields_mapArtifact raw, c.total_mapArtifact raw, ?_,
    ⟨c.failures raw, c.errors_mapArtifact raw, ?_, ?_⟩, ?_,
    fun raw' h => Config.mapArtifact_congr h⟩
  · rw [c.errors_mapArtifact raw, List.length_map]
    exact c.mapped_add_size_failures raw
  · intro name hname
    rw [c.keys_fields_mapArtifact raw]
    rw [Config.failures, ← Dict.isSome_find?_iff, Dict.find?_filterMap] at hname
    obtain ⟨e, he⟩ := Option.isSome_iff_exists.1 hname
    obtain ⟨data, hdata, -⟩ := Option.bind_eq_some_iff.1 he
    rw [← Dict.keys_filter (· != originKey), ← Dict.isSome_find?_iff, hdata]
    rfl
  · intro name data hname hdata
    refine ⟨c.mapField name data, ?_, ?_⟩
    · rw [Config.find?_fields_mapArtifact hname, hdata, Option.map_some]
    · rw [Config.find?_failures hname, hdata, Option.bind_some]
      exact c.mapField_outcome name data
  · intro c' raw' name hstrategy hdata
    by_cases hname : name = originKey
    · rw [hname, Config.find?_fields_origin, Config.find?_fields_origin]
    · rw [Config.find?_fields_mapArtifact hname, Config.find?_fields_mapArtifact hname, hdata]
      cases raw.find? name with
      | none => rfl
      | some data => rw [Option.map_some, Option.map_some, Config.mapField_congr hstrategy]

end PolicyFields.Mapping
