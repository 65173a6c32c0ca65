import PolicyFields.Mapping.Apply
import PolicyFields.Mapping.Config

/-!
# Mapping a whole artifact

`Config.mapArtifact` maps every field of a raw artifact, document by document. A field either is
mapped in full or keeps its data and leaves one error.

* `Artifact` — the mapped fields and where they come from.
* `Config.addField`, `Config.mapArtifact` — one field after the other.
* `Artifact.toValue` — the artifact as JSON, its origin last.

What is logged on the way, as for a strategy that is not known, is left out. The time at which an
artifact is made is asked for when it is written.
-/

namespace PolicyFields.Mapping

open Json (Value)

/-- The key under which an artifact tells its origin (`METADATA_KEY`). -/
def originKey : String := "_mapping_metadata"

/-- A mapped artifact (`MappedArtifact`): its fields, the configuration that was used, how many
fields there were, how many of them were mapped, and an error for every other one. -/
structure Artifact where
  fields : Dict Value
  company : String
  version : String
  total : Nat
  mapped : Nat
  errors : List String

namespace Config

/-- The value of a document; fields without a strategy keep their values (`map_field`). -/
def mapValue (c : Config) (field : String) (v : Value) : Except MappingError Value :=
  match c.fields.find? field with
  | some s => s.apply v
  | none => .ok v

/-- The values of all documents, or the first error (`map_documents`). -/
def mapDocuments (c : Config) (field : String) (data : Value) :
    Except MappingError (List (String × Value)) :=
  match data with
  | .object documents => documents.mapM fun d => do
      return (d.1, ← c.mapValue field d.2)
  | _ => .error (.notAnObject field)

/-- The error that a field leaves. -/
def fieldError (field : String) (e : MappingError) : String :=
  "Error mapping field '" ++ field ++ "': " ++ e.message

/-- An artifact before any field is mapped. -/
def blank (c : Config) : Artifact := ⟨.empty, c.company, c.version, 0, 0, []⟩

/-- One field more: mapped, or with the data it had and an error. -/
def addField (c : Config) (a : Artifact) (field : String) (data : Value) : Artifact :=
  match c.mapDocuments field data with
  | .ok documents =>
    { a with
      fields := a.fields.insert field (.object documents)
      total := a.total + 1
      mapped := a.mapped + 1 }
  | .error e =>
    { a with
      fields := a.fields.insert field data
      total := a.total + 1
      errors := a.errors ++ [fieldError field e] }

/-- Every field of a raw artifact mapped, one after the other (`map_corpus`). An origin that the raw
artifact tells is dropped. -/
def mapArtifact (c : Config) (raw : Dict Value) : Artifact :=
  (raw.filter fun name _ => name != originKey).entries.foldl (fun a e => c.addField a e.1 e.2)
    c.blank

end Config

namespace Artifact

/-- The origin of an artifact (`MappingMetadata`); `time` says when it was made. -/
def origin (a : Artifact) (time : Option String) : Value :=
  .object ([("company", .string a.company), ("config_version", .string a.version),
    ("processing_stats", .object [("total_fields", .nat a.total), ("mapped_fields", .nat a.mapped),
      ("errors", .array (a.errors.map Value.string))])] ++
    (time.map fun t => ("timestamp", Value.string t)).toList)

/-- The artifact as JSON. -/
def toValue (a : Artifact) (time : Option String) : Value :=
  .object (a.fields.entries ++ [(originKey, a.origin time)])

end Artifact

end PolicyFields.Mapping
