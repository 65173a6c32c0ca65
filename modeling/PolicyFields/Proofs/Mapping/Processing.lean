import PolicyFields.Extraction.Statistics
import PolicyFields.Proofs.Files.Store
import PolicyFields.Proofs.Mapping.Outputs

/-!
# Mapping files

* `readArtifact_eq_ok_iff` — an artifact is read from a file iff its text is an object.
* `Artifact.readBack` — what is read from a mapped artifact that has been written.
* `Config.writable_mapArtifact` — how deep a mapped artifact is nested, given how deep the values of
  the configuration are.
* `mapFile_all_or_nothing` — **input that is no artifact changes nothing; of an artifact, what is
  written is read back unless it is nested too deep**, counted and mapped again without its origin
  getting in the way.
-/

namespace PolicyFields

open Json (Value Tree)
open Traversal (bind_eq_ok_iff)

/-! ## Reading -/

theorem Json.readWhole_dict_eq_ok_iff {text : String} {d : Dict Value} :
    Json.readWhole (Json.readDict Json.Source.value) text = .ok d ↔
      Value.ofText text = .ok (.ofDict d) := by
  unfold Value.ofText Json.readWhole
  generalize Tree.ofText text.toList = outline
  obtain ⟨t, rest⟩ := outline
  have hdict : ∀ d, Json.readDict Json.Source.value t = .ok d ↔ t.value = .ok (.ofDict d) :=
    fun d => Json.readDict_tree_eq_ok_iff
  constructor
  · intro h
    dsimp only at h ⊢
    split at h
    · cases h
    · rename_i d' hd'
      rw [(hdict d').1 hd']
      dsimp only
      split at h
      · obtain rfl := Except.ok.inj h
        rfl
      · cases h
  · intro h
    dsimp only at h ⊢
    split at h
    · cases h
    · rename_i v hv
      split at h
      · obtain rfl := Except.ok.inj h
        rw [(hdict d).2 hv]
      · cases h

/-- **An artifact is read from a file iff its text is an object.** -/
theorem readArtifact_eq_ok_iff {f : Files} {p : Path} {d : Dict Value} :
    readArtifact f p = .ok d ↔
      ∃ text, f.readText p = .ok text ∧ Value.ofText text = .ok (.ofDict d) := by
  unfold readArtifact readJsonFile
  cases f.readText p with
  | error e => simp [Except.mapError, bind, Except.bind]
  | ok text =>
    simp only [Except.mapError, bind, Except.bind, Except.ok.injEq, exists_eq_left',
      ← Json.readWhole_dict_eq_ok_iff]
    cases Json.readWhole (Json.readDict Json.Source.value) text <;> simp

/-- An object that is nested too deep is not read back. -/
theorem readArtifact_deep {k : Nat} {f g : Files} {p : Path} {v : Value} (hv : v.Writable k)
    (hdeep : Json.maxDepth < v.depth) (h : writeArtifact f p v = (.ok (), g)) :
    ∃ e, readArtifact g p = .error e := by
  cases hread : readArtifact g p with
  | error e => exact ⟨e, rfl⟩
  | ok d =>
    obtain ⟨text, htext, hvalue⟩ := readArtifact_eq_ok_iff.1 hread
    rw [Files.readText_of_writeWithParents (writeArtifact_eq_ok h)] at htext
    obtain rfl := Except.ok.inj htext
    rw [Value.ofText_pretty_deep hv hdeep] at hvalue
    cases hvalue

/-! ## Writing -/

namespace Files

theorem CanWrite.written {f : Files} {p : Path} (h : f.CanWrite p) (v : Value) :
    ∃ g, writeArtifact f p v = (.ok (), g) := by
  refine ⟨(f.writeWithParents p (.text v.pretty)).2, ?_⟩
  have hok : (f.writeWithParents p (.text v.pretty)).1 = .ok () :=
    (f.writeWithParents_fst p _ _).trans h
  unfold writeArtifact
  generalize f.writeWithParents p (.text v.pretty) = written at hok ⊢
  obtain ⟨_, g⟩ := written
  obtain rfl := hok
  rfl

theorem not_written {f : Files} {p : Path} (h : ¬ f.CanWrite p) (v : Value) :
    ∃ e, (writeArtifact f p v).1 = .error (.file e) := by
  have hnot : (f.writeWithParents p (.text v.pretty)).1 ≠ .ok () :=
    fun hok => h ((f.writeWithParents_fst p _ _).trans hok)
  unfold writeArtifact
  generalize f.writeWithParents p (.text v.pretty) = written at hnot ⊢
  obtain ⟨e | ⟨⟩, g⟩ := written
  · exact ⟨e, rfl⟩
  · exact absurd rfl hnot

end Files

namespace Mapping

/-! ## What is written -/

namespace Artifact

/-- What is read from an artifact that has been written. -/
def readBack (a : Artifact) (time : Option String) : Dict Value :=
  Dict.ofList (a.fields.entries ++ [(originKey, (a.origin time).inOrder)])

variable {a : Artifact}

theorem find?_readBack (horigin : a.fields.find? originKey = none) (time : Option String)
    (name : String) : (a.readBack time).find? name =
      if name = originKey then some (a.origin time).inOrder else a.fields.find? name := by
  have hfresh : originKey ∉ a.fields.keys := fun hmem => by
    rw [← Dict.isSome_find?_iff, horigin] at hmem
    cases hmem
  have hkeys : ((a.fields.entries ++ [(originKey, (a.origin time).inOrder)]).map
      Prod.fst).Nodup := by
    rw [List.map_append, List.nodup_append]
    refine ⟨a.fields.keys_nodup, List.nodup_singleton _, ?_⟩
    rintro k hk l hl rfl
    obtain rfl : k = originKey := List.mem_singleton.1 hl
    exact hfresh hk
  rw [readBack, Dict.find?_ofList_of_nodup hkeys, List.lookup_append]
  change (a.fields.find? name).or _ = _
  by_cases h : name = originKey
  · subst h
    rw [horigin, if_pos rfl, Option.none_or, Dict.lookup_cons_eq_ite, if_pos rfl]
  · rw [if_neg h, Dict.lookup_cons_eq_ite, if_neg h, List.lookup_nil, Option.or_none]

/-- Counts of 64 bits, and any texts. -/
theorem writable_origin (htotal : a.total < 2 ^ 64) (hmapped : a.mapped < 2 ^ 64)
    (time : Option String) (k : Nat) : (a.origin time).Writable (k + 3) := by
  have hstats : (Value.object [("total_fields", .nat a.total), ("mapped_fields", .nat a.mapped),
      ("errors", .array (a.errors.map Value.string))]).Writable (k + 2) := by
    refine .object ?_
    simp only [List.forall_mem_cons, List.not_mem_nil, false_imp_iff, implies_true, and_true]
    refine ⟨.int (by omega) (by exact_mod_cast htotal), .int (by omega) (by exact_mod_cast hmapped),
      .array fun v hv => ?_⟩
    obtain ⟨s, -, rfl⟩ := List.mem_map.1 hv
    exact .string s
  refine .object fun m hm => ?_
  rcases List.mem_append.1 hm with hm | hm
  · simp only [List.mem_cons, List.not_mem_nil, or_false] at hm
    rcases hm with rfl | rfl | rfl
    · exact .string _
    · exact .string _
    · exact hstats
  · obtain ⟨t, -, rfl⟩ := Option.map_eq_some_iff.1 (Option.mem_toList.1 hm)
    exact .string _

variable {k : Nat} (hfields : ∀ m ∈ a.fields.entries, m.2.Storable (k + 3))

include hfields

theorem writable_toValue (htotal : a.total < 2 ^ 64) (hmapped : a.mapped < 2 ^ 64)
    (time : Option String) : (a.toValue time).Writable (k + 4) := by
  refine .object fun m hm => ?_
  rcases List.mem_append.1 hm with hm | hm
  · exact (hfields m hm).writable
  · obtain rfl := List.mem_singleton.1 hm
    exact writable_origin htotal hmapped time k

theorem inOrder_toValue (time : Option String) :
    (a.toValue time).inOrder = .ofDict (a.readBack time) := by
  have hsame : ∀ m ∈ a.fields.entries, (m.1, m.2.inOrder) = m :=
    fun m hm => Prod.ext rfl (hfields m hm).inOrder_eq
  rw [toValue, Value.inOrder_object, List.map_append, List.map_congr_left hsame, List.map_id']
  rfl

end Artifact

/-! ## The whole step -/

section MapFile

variable {c : Config} {f : Files} {input output : Path} {time : Option String}

theorem mapFile_of_error {e : Failure} (h : readArtifact f input = .error e) :
    c.mapFile f input output time = (.error e, f) := by
  unfold Config.mapFile
  rw [h]

theorem mapFile_of_ok {raw : Dict Value} (h : readArtifact f input = .ok raw) :
    c.mapFile f input output time =
      ((writeArtifact f output ((c.mapArtifact raw).toValue time)).1.map fun _ =>
        c.mapArtifact raw,
      (writeArtifact f output ((c.mapArtifact raw).toValue time)).2) := by
  unfold Config.mapFile
  rw [h]

theorem mapped_le_total (c : Config) (raw : Dict Value) :
    (c.mapArtifact raw).mapped ≤ (c.mapArtifact raw).total :=
  Nat.le.intro (c.mapped_add_size_failures raw)

theorem total_le_size (c : Config) (raw : Dict Value) :
    (c.mapArtifact raw).total ≤ raw.size := by
  rw [(c.accounts_mapArtifact raw).total]
  exact List.length_filter_le _ _

section Mapped

variable {k : Nat} (hc : c.Holds (Value.Readable (k + 2))) {raw : Dict Value}
  (hraw : (Value.ofDict raw).Readable (k + 4))
  (hfloat : ∀ v ∈ (c.mapArtifact raw).fields.values, v.floatFree = true)

include hc hraw hfloat

theorem Config.storable_mapArtifact :
    ∀ m ∈ (c.mapArtifact raw).fields.entries, m.2.Storable (k + 3) := fun m hm =>
  ((Config.mapArtifact_readable hc hraw).entries m hm).storable
    (hfloat m.2 (List.mem_map_of_mem hm))

/-- **A mapped artifact is nested two deeper than the values of the configuration may be.** -/
theorem Config.writable_mapArtifact (hsize : raw.size < 2 ^ 64) :
    ((c.mapArtifact raw).toValue time).Writable (k + 4) := by
  have htotal := Nat.lt_of_le_of_lt (total_le_size c raw) hsize
  have hmapped := Nat.lt_of_le_of_lt (mapped_le_total c raw) htotal
  exact Artifact.writable_toValue (storable_mapArtifact hc hraw hfloat) htotal hmapped time

end Mapped

end MapFile

/-! ### Counting what was written -/

theorem find?_summary_readBack {a : Artifact} (horigin : a.fields.find? originKey = none)
    (time : Option String) (threshold : Float) {name : String} {stats : Extraction.FieldStats} :
    (Extraction.Summary.ofArtifact (a.readBack time) threshold).fields.find? name = some stats ↔
      name.toList.head? ≠ some '_' ∧ ∃ documents, a.fields.find? name = some (.object documents) ∧
        stats = .ofPresence (documents.map fun d => !d.2.isNull) := by
  rw [Extraction.Summary.ofArtifact, Dict.find?_filterMap, Artifact.find?_readBack horigin]
  by_cases hhead : name.toList.head? = some '_'
  · simp [hhead]
  · have hname : name ≠ originKey := by
      rintro rfl
      exact hhead (by decide)
    have hflag : (name.toList.head? == some '_') = false := beq_eq_false_iff_ne.2 hhead
    simp only [if_neg hname, hflag, Bool.false_eq_true, if_false, ne_eq, hhead, not_false_eq_true,
      true_and]
    cases a.fields.find? name with
    | none => simp
    | some data => cases data <;> simp [eq_comm]

/-- Mapped again, an artifact that has been written shows its fields and not its origin. -/
theorem keys_mapArtifact_readBack {a : Artifact} (horigin : a.fields.find? originKey = none)
    (time : Option String) (c : Config) :
    (c.mapArtifact (a.readBack time)).fields.keys = a.fields.keys := by
  have hdata : ((a.readBack time).filter fun name _ => name != originKey) = a.fields := by
    refine Dict.ext_find? fun name => ?_
    rw [Dict.find?_filter_ne, Artifact.find?_readBack horigin]
    by_cases h : name = originKey
    · rw [if_pos h, h, horigin]
    · rw [if_neg h, if_neg h]
  rw [Config.fields_mapArtifact, Dict.keys_map, hdata]

/-- **Input that is no artifact changes nothing; of an artifact, what is written is read back**,
unless it is nested too deep. If the input is missing or its text is no object, the step fails and
all files are as they were. Of an object whose mapped values hold no floats the mapped artifact is
written, unless nothing can be written to the output at all. What is then read from the output are
the mapped fields, each with its value, and the origin in key order; the summary counts exactly the
fields that hold objects and whose names do not begin with an underscore; and mapping it again shows
the fields that the first mapping saw.

The values of the configuration are JSON values of any depth `k`, whole numbers having 64 bits.
Texts are read up to `Json.maxDepth` lists and objects inside each other: a mapped artifact that is
nested deeper is written too, and refused when it is to be read. That cannot happen if the values of
the configuration are nested 125 deep at most, nor if the configuration comes from a file. That the
number of fields has 64 bits is a limit of the machine. -/
theorem mapFile_all_or_nothing {c : Config} {k : Nat} (hc : c.Holds (Value.Readable k)) (f : Files)
    (input output : Path) (time : Option String) :
    ((¬ ∃ text raw, f.readText input = .ok text ∧ Value.ofText text = .ok (.ofDict raw)) →
      ∃ e, c.mapFile f input output time = (.error e, f)) ∧
    ∀ text raw, f.readText input = .ok text → Value.ofText text = .ok (.ofDict raw) →
      raw.size < 2 ^ 64 → (∀ v ∈ (c.mapArtifact raw).fields.values, v.floatFree = true) →
      ((k ≤ 125 ∨ ∃ o f₀ p₀, Config.load o f₀ p₀ = .ok c) →
        ((c.mapArtifact raw).toValue time).depth ≤ Json.maxDepth) ∧
      (¬ f.CanWrite output → ∃ e, (c.mapFile f input output time).1 = .error (.file e)) ∧
      (f.CanWrite output → ∃ g, c.mapFile f input output time = (.ok (c.mapArtifact raw), g) ∧
        (Json.maxDepth < ((c.mapArtifact raw).toValue time).depth →
          ∃ e, readArtifact g output = .error e) ∧
        (((c.mapArtifact raw).toValue time).depth ≤ Json.maxDepth → ∃ loaded,
          readArtifact g output = .ok loaded ∧
          (∀ name, loaded.find? name = if name = originKey
            then some ((c.mapArtifact raw).origin time).inOrder
            else (c.mapArtifact raw).fields.find? name) ∧
          (∀ threshold name stats,
            (Extraction.Summary.ofArtifact loaded threshold).fields.find? name = some stats ↔
              name.toList.head? ≠ some '_' ∧ ∃ documents,
                (c.mapArtifact raw).fields.find? name = some (.object documents) ∧
                stats = .ofPresence (documents.map fun d => !d.2.isNull)) ∧
          ∀ c' : Config,
            (c'.mapArtifact loaded).fields.keys = (c.mapArtifact raw).fields.keys)) := by
  constructor
  · intro hinput
    cases hread : readArtifact f input with
    | error e => exact ⟨e, mapFile_of_error hread⟩
    | ok raw => exact absurd ((readArtifact_eq_ok_iff.1 hread).imp fun _ h => ⟨raw, h⟩) hinput
  · intro text raw htext hvalue hsize hfloat
    have hread : readArtifact f input = .ok raw := readArtifact_eq_ok_iff.2 ⟨text, htext, hvalue⟩
    have hraw : (Value.ofDict raw).Readable Json.maxDepth := Json.Value.ofText_readable hvalue
    have horigin := Config.find?_fields_origin (c := c) raw
    -- The input itself may be nested 127 deep, whatever the configuration holds.
    have hc' : c.Holds (Value.Readable (k + 123 + 2)) := hc.imp fun _ h => h.mono (by omega)
    have hraw' : (Value.ofDict raw).Readable (k + 123 + 4) :=
      hraw.mono (by rw [Json.maxDepth]; omega)
    have hwritable : ((c.mapArtifact raw).toValue time).Writable (k + 123 + 4) :=
      Config.writable_mapArtifact hc' hraw' hfloat hsize
    refine ⟨fun hk => ?_, fun hcannot => ?_, fun hcan => ?_⟩
    · have hshallow : c.Holds (Value.Readable (123 + 2)) := by
        rcases hk with hk | ⟨o, f₀, p₀, hload⟩
        · exact hc.imp fun _ h => h.mono hk
        · exact Config.load_holds hload
      exact (Config.writable_mapArtifact hshallow hraw hfloat hsize).depth_le
    · obtain ⟨e, he⟩ := Files.not_written hcannot ((c.mapArtifact raw).toValue time)
      exact ⟨e, by rw [mapFile_of_ok hread, he]; rfl⟩
    · obtain ⟨g, hg⟩ := hcan.written ((c.mapArtifact raw).toValue time)
      refine ⟨g, by rw [mapFile_of_ok hread, hg]; rfl,
        fun hdeep => readArtifact_deep hwritable hdeep hg, fun hdepth => ?_⟩
      have hback : readArtifact g output = .ok ((c.mapArtifact raw).readBack time) :=
        readArtifact_inOrder (hwritable.of_depth hdepth)
          (Artifact.inOrder_toValue (Config.storable_mapArtifact hc' hraw' hfloat) time) hg
      exact ⟨_, hback, Artifact.find?_readBack horigin time,
        fun threshold name stats => find?_summary_readBack horigin time threshold,
        keys_mapArtifact_readBack horigin time⟩

/-- A configuration with one field, whose value is fixed. -/
def fixedConfig (output : Value) : Config := ⟨"unknown", "1.0", Dict.ofList [("A", .fixed output)]⟩

/-- The configuration as JSON. -/
def fixedConfigValue (output : Value) : Value :=
  .object [("field_mappings", .object [
    ("A", .object [("output", output), ("type", .string "fixed_value")])])]

theorem parse_fixedConfig (o : Regex.Options) (output : Value) :
    Config.parse o (fixedConfigValue output) = .ok (fixedConfig output) := rfl

theorem holds_fixedConfig {Q : Value → Prop} {output : Value} (h : Q output) :
    (fixedConfig output).Holds Q := by
  intro name s hs
  obtain ⟨-, rfl⟩ := Prod.mk.inj (List.mem_singleton.1 (Dict.mem_of_find?_ofList hs))
  exact h

/-- A field with a fixed value and a name that begins with an underscore: the first is counted, both
are read back; a missing file changes nothing. -/
theorem mapFile_all_or_nothing_fixed :
    let raw : Dict Value := Dict.ofList [("A", .ofDict (Dict.ofList [("d", .null)])),
      ("_b", .ofDict (Dict.ofList [("d", .bool true)]))]
    let f : Files := ⟨[], [(["raw.json"], .file (.text (Value.ofDict raw).pretty))]⟩
    let c : Config := fixedConfig (.string "x")
    Config.parse .plain (fixedConfigValue (.string "x")) = .ok c ∧
      (∃ e, c.mapFile f ⟨"none.json"⟩ ⟨"out/mapped.json"⟩ none = (.error e, f)) ∧
      ∃ mapped g loaded, c.mapFile f ⟨"raw.json"⟩ ⟨"out/mapped.json"⟩ none = (.ok mapped, g) ∧
        readArtifact g ⟨"out/mapped.json"⟩ = .ok loaded ∧
        loaded.find? "A" = some (.object [("d", .string "x")]) ∧
        loaded.find? "_b" = some (.object [("d", .bool true)]) ∧
        ∀ threshold, (Extraction.Summary.ofArtifact loaded threshold).fields.find? "A" =
          some ⟨1, 1⟩ := by
  intro raw f c
  have hc : c.Holds (Value.Readable 0) := holds_fixedConfig (.string "x")
  have hnone : f.readText ⟨"none.json"⟩ = .error .notFound := by decide
  have htext : f.readText ⟨"raw.json"⟩ = .ok (Value.ofDict raw).pretty := rfl
  have hvalue : Value.ofText (Value.ofDict raw).pretty = .ok (.ofDict raw) := by
    refine Value.ofText_pretty (.object fun m hm => ?_)
    rcases List.mem_cons.1 hm with rfl | hm
    · exact .object (List.forall_mem_singleton.2 .null)
    · obtain rfl := List.mem_singleton.1 hm
      exact .object (List.forall_mem_singleton.2 (.bool true))
  have hfloat : ∀ v ∈ (c.mapArtifact raw).fields.values, v.floatFree = true := by decide
  have hcan : f.CanWrite ⟨"out/mapped.json"⟩ := by
    unfold Files.CanWrite
    decide
  obtain ⟨hbad, -⟩ := mapFile_all_or_nothing hc f ⟨"none.json"⟩ ⟨"out/mapped.json"⟩ none
  obtain ⟨-, hgood⟩ := mapFile_all_or_nothing hc f ⟨"raw.json"⟩ ⟨"out/mapped.json"⟩ none
  obtain ⟨hdepth, -, hok⟩ := hgood _ raw htext hvalue (by decide) hfloat
  obtain ⟨g, hmap, -, hshallow⟩ := hok hcan
  obtain ⟨loaded, hread, hfind, hsummary, -⟩ := hshallow (hdepth (.inl (by decide)))
  refine ⟨parse_fixedConfig _ _, hbad ?_, _, g, loaded, hmap, hread, (hfind "A").trans rfl,
    (hfind "_b").trans rfl, fun threshold => ?_⟩
  · rintro ⟨text, raw, htext, -⟩
    rw [hnone] at htext
    cases htext
  · exact (hsummary threshold "A" ⟨1, 1⟩).2 ⟨by decide, _, rfl, rfl⟩

/-- Null inside `n` lists. -/
def nullInLists : Nat → Value
  | 0 => .null
  | n + 1 => .array [nullInLists n]

theorem readable_nullInLists (n : Nat) : (nullInLists n).Readable n := by
  induction n with
  | zero => exact .null
  | succ n ih => exact .array (List.forall_mem_singleton.2 ih)

/-- A configuration that is given as a value may hold a value that is nested 126 deep. The artifact
that is mapped with it is written, and cannot be read back. -/
theorem mapFile_too_deep :
    let raw : Dict Value := Dict.ofList [("A", .ofDict (Dict.ofList [("d", .null)]))]
    let f : Files := ⟨[], [(["raw.json"], .file (.text (Value.ofDict raw).pretty))]⟩
    let output : Value := nullInLists 126
    let c : Config := fixedConfig output
    Config.parse .plain (fixedConfigValue output) = .ok c ∧
      f.readText ⟨"raw.json"⟩ = .ok (Value.ofDict raw).pretty ∧
      Value.ofText (Value.ofDict raw).pretty = .ok (.ofDict raw) ∧
      (c.mapArtifact raw).fields = Dict.ofList [("A", .ofDict (Dict.ofList [("d", output)]))] ∧
      (∀ v ∈ (c.mapArtifact raw).fields.values, v.floatFree = true) ∧
      ∃ g e, c.mapFile f ⟨"raw.json"⟩ ⟨"mapped.json"⟩ (some "2025-01-01T00:00:00.000000") =
          (.ok (c.mapArtifact raw), g) ∧
        readArtifact g ⟨"mapped.json"⟩ = .error e := by
  intro raw f output c
  have htext : f.readText ⟨"raw.json"⟩ = .ok (Value.ofDict raw).pretty := rfl
  have hvalue : Value.ofText (Value.ofDict raw).pretty = .ok (.ofDict raw) :=
    Value.ofText_pretty
      (.object (List.forall_mem_singleton.2 (.object (List.forall_mem_singleton.2 .null))))
  have hfloat : ∀ v ∈ (c.mapArtifact raw).fields.values, v.floatFree = true := by
    decide +kernel
  have hc : c.Holds (Value.Readable 126) := holds_fixedConfig (readable_nullInLists 126)
  have hraw : (Value.ofDict raw).Readable 128 :=
    (Json.Value.ofText_readable hvalue).mono (by decide)
  have hcan : f.CanWrite ⟨"mapped.json"⟩ := by
    unfold Files.CanWrite
    decide
  obtain ⟨g, hg⟩ := hcan.written
    ((c.mapArtifact raw).toValue (some "2025-01-01T00:00:00.000000"))
  have hdeep : Json.maxDepth <
      ((c.mapArtifact raw).toValue (some "2025-01-01T00:00:00.000000")).depth := by
    decide +kernel
  obtain ⟨e, he⟩ :=
    readArtifact_deep (Config.writable_mapArtifact hc hraw hfloat (by decide)) hdeep hg
  refine ⟨parse_fixedConfig _ _, htext, hvalue, rfl, hfloat, g, e, ?_, he⟩
  rw [mapFile_of_ok (readArtifact_eq_ok_iff.2 ⟨_, htext, hvalue⟩), hg]
  rfl

end Mapping

end PolicyFields
