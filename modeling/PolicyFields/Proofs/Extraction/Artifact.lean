import PolicyFields.Extraction.Session
import PolicyFields.Proofs.Files.Store
import PolicyFields.Proofs.Json.Record

/-!
# Raw artifacts on disk

* `readOption_resultValue` — a result is read from what it is written as: nothing, a text and a list
  stay apart.
* `storable_artifact` — JSON text holds a raw artifact as it is.
* `artifact_restored` — **a raw artifact that is written to a file is read from it without loss**.
-/

namespace PolicyFields.Extraction

open Json (Value readOption)

theorem Extracted.read_toValue (e : Extracted) : Extracted.read e.toValue = .ok e := by
  cases e with
  | text s => rfl
  | list items =>
    have hitems : Json.readList Json.readText (Value.array (items.map Value.string)) =
        .ok items := by
      refine Json.readList_eq_ok_iff.2 ⟨_, rfl, ?_⟩
      rw [List.forall₂_map_left_iff, List.forall₂_same]
      exact fun s _ => Json.readText_eq_ok_iff.2 rfl
    rw [Extracted.read, Json.bind_view]
    simp only [toValue, Value.view, hitems]
    rfl

/-- **A result is read from what it is written as.** -/
theorem readOption_resultValue (r : Option Extracted) :
    readOption Extracted.read (resultValue r) = .ok r := by
  cases r with
  | none => rfl
  | some e =>
    have hnull : e.toValue ≠ .null := by cases e <;> simp [Extracted.toValue]
    exact Json.readOption_eq_ok_iff.2 (.inr ⟨hnull, e, rfl, e.read_toValue⟩)

/-! ## What JSON text holds -/

theorem storable_resultValue (k : Nat) (r : Option Extracted) :
    (resultValue r).Storable (k + 1) := by
  match r with
  | none => exact .null
  | some (.text s) => exact .string s
  | some (.list items) =>
    refine .array fun v hv => ?_
    obtain ⟨s, -, rfl⟩ := List.mem_map.1 hv
    exact .string s

theorem storable_artifact (k : Nat) (c : Corpus) : c.artifact.Storable (k + 3) := by
  refine .object fun field hfield => ?_
  obtain ⟨⟨_, values⟩, -, rfl⟩ := List.mem_map.1 hfield
  refine .object fun entry hentry => ?_
  obtain ⟨⟨_, r⟩, -, rfl⟩ := List.mem_map.1 hentry
  exact storable_resultValue k r

/-! ## Writing and reading -/

/-- **A raw artifact that is written to a file is read from it without loss**: the same fields, in
each of them the same documents, and for each document the same result. -/
theorem artifact_restored {f g : Files} {p : Path} {c : Corpus}
    (h : writeArtifact f p c.artifact = (.ok (), g)) :
    ∃ raw, readArtifact g p = .ok raw ∧ raw.keys = c.fields.keys ∧
      ∀ field values, c.fields.find? field = some values →
        ∃ documents : Dict Value, raw.find? field = some (.ofDict documents) ∧
          documents.keys = values.keys ∧ ∀ id r, values.find? id = some r →
            ∃ x, documents.find? id = some x ∧ readOption Extracted.read x = .ok r := by
  refine ⟨_, readArtifact_of_writeArtifact (storable_artifact 124 c) h, Dict.keys_map _ _, ?_⟩
  intro field values hvalues
  refine ⟨values.map fun _ r => resultValue r, ?_, Dict.keys_map _ _, fun id r hr => ?_⟩
  · rw [Dict.find?_map, hvalues]
    rfl
  · exact ⟨resultValue r, by rw [Dict.find?_map, hr]; rfl, readOption_resultValue r⟩

/-- Quotes, backslashes and controls in names, and all kinds of results. -/
theorem artifact_restored_escaped :
    let c : Corpus :=
      { fields := Dict.ofList [("a\"\\", Dict.ofList [("ş\n", none), ("\x01", some (.text "\"")),
          ("2", some (.list [])), ("3", some (.list ["\t", "€"]))])]
        documents := 4, failed := [], interrupted := false }
    let g := (writeArtifact (Files.empty []) ⟨"out/raw.json"⟩ c.artifact).2
    ∃ raw documents, readArtifact g ⟨"out/raw.json"⟩ = .ok raw ∧ raw.keys = ["a\"\\"] ∧
      raw.find? "a\"\\" = some (.ofDict documents) ∧
      documents.keys = ["\x01", "2", "3", "ş\n"] := by
  intro c g
  have hwrite : writeArtifact (Files.empty []) ⟨"out/raw.json"⟩ c.artifact = (.ok (), g) :=
    Prod.ext rfl rfl
  obtain ⟨raw, hraw, hkeys, hfields⟩ := artifact_restored hwrite
  obtain ⟨documents, hdocuments, hids, -⟩ := hfields "a\"\\" _ rfl
  exact ⟨raw, documents, hraw, hkeys, hdocuments, hids⟩

end PolicyFields.Extraction
