import PolicyFields.Proofs.Json.Paths

/-!
# Settings one by one

* `Settings.Leaf` — the settings that hold one value, `Settings.Group` — the two objects that they
  stand in.
* `Settings.Kind.Takes` — what a setting makes of a value.
* `Settings.read_eq_ok_iff` — **settings are read iff they are a record of records and every setting
  takes its part**; one that has no part is as usual.
* `Settings.exists_at?_tree_iff` — the names of settings.
-/

namespace PolicyFields

open Json (Value Error Reads Shape Field exists_fill_cons_iff exists_fill_nil_iff)

variable {v w : Value}

namespace Settings

/-! ## Kinds of settings -/

/-- The kinds of values that settings hold. -/
inductive Kind where
  | text
  | rate
  | count
  | flag
deriving DecidableEq

/-- A setting of a kind takes a value as another. Only a rate changes what it takes: of a whole
number it takes the nearest float. -/
inductive Kind.Takes : Kind → Value → Value → Prop
  | text (s : String) : Takes .text (.string s) (.string s)
  | float (x : Float) : Takes .rate (.float x) (.float x)
  | whole (n : Int) : Takes .rate (.int n) (.float (Json.Number.int n).toFloat)
  | count (n : Nat) : Takes .count (.nat n) (.nat n)
  | flag (b : Bool) : Takes .flag (.bool b) (.bool b)

theorem readPath_eq_ok_iff {p : Path} :
    Layout.readPath v = .ok p ↔ Kind.text.Takes v (.string p.text) := by
  rw [Layout.readPath, Traversal.bind_eq_ok_iff]
  constructor
  · rintro ⟨s, hs, hp⟩
    obtain rfl := Except.ok.inj hp
    rw [Json.readString, Json.bind_view] at hs
    cases v with
    | string t =>
      obtain rfl := Except.ok.inj hs
      exact .text t
    | _ => cases hs
  · generalize hw : Value.string p.text = w
    rintro ⟨⟩
    obtain rfl := Value.string.inj hw
    exact ⟨_, rfl, rfl⟩

theorem readFloat_eq_ok_iff {x : Float} :
    Json.readFloat v = .ok x ↔ Kind.rate.Takes v (.float x) := by
  rw [Json.readFloat, Json.bind_view]
  constructor
  · intro h
    cases v with
    | number n =>
      obtain rfl := Except.ok.inj h
      cases n with
      | int n => exact .whole n
      | float x => exact .float x
    | _ => cases h
  · generalize hw : Value.float x = w
    rintro (_ | _ | _)
    · obtain rfl := Json.Number.float.inj (Value.number.inj hw)
      rfl
    · obtain rfl := Json.Number.float.inj (Value.number.inj hw)
      rfl

theorem readNat_eq_ok_iff {n : Nat} : Json.readNat v = .ok n ↔ Kind.count.Takes v (.nat n) := by
  rw [Json.readNat_eq_ok_iff]
  constructor
  · rintro rfl
    exact .count n
  · generalize hw : Value.nat n = w
    rintro ⟨⟩
    rfl

theorem readBool_eq_ok_iff {b : Bool} : Json.readBool v = .ok b ↔ Kind.flag.Takes v (.bool b) := by
  rw [Json.readBool_eq_ok_iff]
  constructor
  · rintro rfl
    exact .flag b
  · generalize hw : Value.bool b = w
    rintro ⟨⟩
    rfl

/-! ## Names -/

/-- The objects in which settings stand. -/
inductive Group where
  | paths
  | extraction
deriving DecidableEq

namespace Group

/-- The key of a group. -/
def key : Group → String
  | paths => "paths"
  | extraction => "extraction"

/-- The members of a group. -/
def names : Group → List String
  | paths => ["config_dir", "pdf_dir", "output_dir", "mapped_dir"]
  | extraction => ["success_threshold", "regex_size_limit", "continue_on_error"]

theorem key_inj {g g' : Group} : g.key = g'.key ↔ g = g' := by
  cases g <;> cases g' <;> decide

end Group

/-- The keys of the groups. -/
def groupNames : List String := ["paths", "extraction"]

/-- The settings that hold one value. -/
inductive Leaf where
  | configDir
  | pdfDir
  | outputDir
  | mappedDir
  | threshold
  | sizeLimit
  | continueOnError
deriving DecidableEq

namespace Leaf

/-- The group of a setting. -/
def group : Leaf → Group
  | configDir | pdfDir | outputDir | mappedDir => .paths
  | threshold | sizeLimit | continueOnError => .extraction

/-- The key of a setting in its group. -/
def key : Leaf → String
  | configDir => "config_dir"
  | pdfDir => "pdf_dir"
  | outputDir => "output_dir"
  | mappedDir => "mapped_dir"
  | threshold => "success_threshold"
  | sizeLimit => "regex_size_limit"
  | continueOnError => "continue_on_error"

/-- The kind of a setting. -/
def kind : Leaf → Kind
  | configDir | pdfDir | outputDir | mappedDir => .text
  | threshold => .rate
  | sizeLimit => .count
  | continueOnError => .flag

/-- The keys that lead to a setting. -/
def keys (k : Leaf) : List String := [k.group.key, k.key]

/-- The value of a setting. -/
def value : Leaf → Settings → Value
  | configDir, s => .string s.paths.configDir.text
  | pdfDir, s => .string s.paths.pdfDir.text
  | outputDir, s => .string s.paths.outputDir.text
  | mappedDir, s => .string s.paths.mappedDir.text
  | threshold, s => .float s.extraction.threshold
  | sizeLimit, s => .nat s.extraction.sizeLimit
  | continueOnError, s => .bool s.extraction.continueOnError

variable {k : Leaf} {s s' : Settings}

/-- A setting takes its own values as they are. -/
theorem takes_value_iff : k.kind.Takes (k.value s) w ↔ w = k.value s := by
  constructor
  · intro h
    cases k <;> cases h <;> rfl
  · rintro rfl
    cases k with
    | threshold => exact .float _
    | sizeLimit => exact .count _
    | continueOnError => exact .flag _
    | _ => exact .text _

/-- Values of their kinds make settings. -/
theorem exists_value_eq (values : Leaf → Value) (h : ∀ k : Leaf, ∃ v, k.kind.Takes v (values k)) :
    ∃ s, ∀ k : Leaf, k.value s = values k := by
  have htext {v w : Value} (h : Kind.text.Takes v w) : ∃ t : String, .string t = w := by
    cases h
    exact ⟨_, rfl⟩
  have hrate {v w : Value} (h : Kind.rate.Takes v w) : ∃ x : Float, .float x = w := by
    cases h <;> exact ⟨_, rfl⟩
  have hcount {v w : Value} (h : Kind.count.Takes v w) : ∃ n : Nat, .nat n = w := by
    cases h
    exact ⟨_, rfl⟩
  have hflag {v w : Value} (h : Kind.flag.Takes v w) : ∃ b : Bool, .bool b = w := by
    cases h
    exact ⟨_, rfl⟩
  obtain ⟨c, hc⟩ := htext (h configDir).choose_spec
  obtain ⟨p, hp⟩ := htext (h pdfDir).choose_spec
  obtain ⟨o, ho⟩ := htext (h outputDir).choose_spec
  obtain ⟨m, hm⟩ := htext (h mappedDir).choose_spec
  obtain ⟨x, hx⟩ := hrate (h threshold).choose_spec
  obtain ⟨n, hn⟩ := hcount (h sizeLimit).choose_spec
  obtain ⟨b, hb⟩ := hflag (h continueOnError).choose_spec
  refine ⟨⟨⟨⟨c⟩, ⟨p⟩, ⟨o⟩, ⟨m⟩⟩, ⟨x, n, b⟩⟩, fun k => ?_⟩
  cases k <;> assumption

end Leaf

/-! ## What a setting is read from -/

/-- A setting has been read from its part; without one it is as usual. -/
def Leaf.Holds (k : Leaf) (part : Option Value) (s : Settings) : Prop :=
  match part with
  | none => k.value s = k.value .default
  | some x => k.kind.Takes x (k.value s)

/-- The settings of a group have been read from the members of its part, which is a record. -/
def Group.Holds (g : Group) (part : Option Value) (s : Settings) : Prop :=
  match part with
  | none => ∀ k : Leaf, k.group = g → k.Holds none s
  | some x => x.Record g.names fun get => ∀ k : Leaf, k.group = g → k.Holds (get k.key) s

/-- A setting that is read is set to what its reader makes of its part. -/
theorem Leaf.reads_iff_holds {α : Type} {item : Value → Except Error α} (toValue : α → Value)
    {k : Leaf} (hread : ∀ {x a}, item x = .ok a ↔ k.kind.Takes x (toValue a))
    (hinj : ∀ {a b}, toValue a = toValue b ↔ a = b) {default a : α} {s : Settings}
    (ha : k.value s = toValue a) (hdefault : k.value .default = toValue default)
    {part : Option Value} : Reads item default part a ↔ k.Holds part s := by
  cases part with
  | none => rw [Holds, ha, hdefault, hinj, Reads]
  | some x => rw [Holds, ha, Reads, hread]

theorem path_inj {p q : Path} : Value.string p.text = .string q.text ↔ p = q := by
  rw [Value.string.injEq, Path.mk.injEq]

theorem float_inj {x y : Float} : Value.float x = .float y ↔ x = y := by
  simp only [Value.float, Value.number.injEq, Json.Number.float.injEq]

theorem nat_inj {m n : Nat} : Value.nat m = .nat n ↔ m = n := by
  simp only [Value.nat, Value.number.injEq, Json.Number.int.injEq, Int.natCast_inj]

theorem bool_inj {a b : Bool} : Value.bool a = .bool b ↔ a = b := by
  rw [Value.bool.injEq]

theorem forall_paths_iff {P : Leaf → Prop} : (∀ k : Leaf, k.group = .paths → P k) ↔
    P .configDir ∧ P .pdfDir ∧ P .outputDir ∧ P .mappedDir := by
  constructor
  · exact fun h => ⟨h _ rfl, h _ rfl, h _ rfl, h _ rfl⟩
  · rintro ⟨hc, hp, ho, hm⟩ k hk
    cases k <;> first | assumption | cases hk

theorem forall_extraction_iff {P : Leaf → Prop} : (∀ k : Leaf, k.group = .extraction → P k) ↔
    P .threshold ∧ P .sizeLimit ∧ P .continueOnError := by
  constructor
  · exact fun h => ⟨h _ rfl, h _ rfl, h _ rfl⟩
  · rintro ⟨ht, hs, hc⟩ k hk
    cases k <;> first | assumption | cases hk

theorem layoutShape_regular : (Layout.shape : Shape Value Layout).Regular where
  names := by decide
  commutes := by simp [Layout.shape]

theorem extractionShape_regular :
    (ExtractionSettings.shape : Shape Value ExtractionSettings).Regular where
  names := by decide
  commutes := by simp [ExtractionSettings.shape]

theorem shape_regular : (Settings.shape : Shape Value Settings).Regular where
  names := by decide
  commutes := by simp [Settings.shape]

theorem layout_read_eq_ok_iff {l : Layout} : Layout.read v = .ok l ↔
    v.Record Group.paths.names fun get =>
      Reads Layout.readPath Layout.default.configDir (get "config_dir") l.configDir ∧
      Reads Layout.readPath Layout.default.pdfDir (get "pdf_dir") l.pdfDir ∧
      Reads Layout.readPath Layout.default.outputDir (get "output_dir") l.outputDir ∧
      Reads Layout.readPath Layout.default.mappedDir (get "mapped_dir") l.mappedDir := by
  suffices (∃ l', Layout.shape.read .default v = .ok l' ∧ l' = l) ↔ v.Record _ _ by
    simpa [Layout.read]
  refine Shape.exists_read_iff layoutShape_regular (fun get => ?_) fun get _ => by
    simp [Layout.shape]
  refine (exists_fill_cons_iff (Field.sets_optional _ _ _) Layout.default.configDir rfl fun c =>
    exists_fill_cons_iff (Field.sets_optional _ _ _) Layout.default.pdfDir rfl fun p =>
      exists_fill_cons_iff (Field.sets_optional _ _ _) Layout.default.outputDir rfl fun o =>
        exists_fill_cons_iff (Field.sets_optional _ _ _) Layout.default.mappedDir rfl fun m =>
          exists_fill_nil_iff).trans ?_
  obtain ⟨c, p, o, m⟩ := l
  simp

theorem extraction_read_eq_ok_iff {e : ExtractionSettings} : ExtractionSettings.read v = .ok e ↔
    v.Record Group.extraction.names fun get =>
      Reads Json.readFloat ExtractionSettings.default.threshold (get "success_threshold")
        e.threshold ∧
      Reads Json.readNat ExtractionSettings.default.sizeLimit (get "regex_size_limit")
        e.sizeLimit ∧
      Reads Json.readBool ExtractionSettings.default.continueOnError (get "continue_on_error")
        e.continueOnError := by
  suffices (∃ e', ExtractionSettings.shape.read .default v = .ok e' ∧ e' = e) ↔ v.Record _ _ by
    simpa [ExtractionSettings.read]
  refine Shape.exists_read_iff extractionShape_regular (fun get => ?_) fun get _ => by
    simp [ExtractionSettings.shape]
  let usual := ExtractionSettings.default
  refine (exists_fill_cons_iff (Field.sets_optional _ _ _) usual.threshold rfl fun x =>
    exists_fill_cons_iff (Field.sets_optional _ _ _) usual.sizeLimit rfl fun n =>
      exists_fill_cons_iff (Field.sets_optional _ _ _) usual.continueOnError rfl fun b =>
        exists_fill_nil_iff).trans ?_
  obtain ⟨x, n, b⟩ := e
  simp [-Bool.exists_bool, usual]

theorem layout_eq_iff {l l' : Layout} : l = l' ↔ l.configDir = l'.configDir ∧
    l.pdfDir = l'.pdfDir ∧ l.outputDir = l'.outputDir ∧ l.mappedDir = l'.mappedDir := by
  cases l
  cases l'
  rw [Layout.mk.injEq]

theorem extraction_eq_iff {e e' : ExtractionSettings} : e = e' ↔ e.threshold = e'.threshold ∧
    e.sizeLimit = e'.sizeLimit ∧ e.continueOnError = e'.continueOnError := by
  cases e
  cases e'
  rw [ExtractionSettings.mk.injEq]

/-- The layout is read from its part. -/
theorem reads_paths_iff {part : Option Value} {s : Settings} :
    Reads Layout.read .default part s.paths ↔ Group.paths.Holds part s := by
  have hleaf {k : Leaf} {p default : Path} {o : Option Value} (hkind : k.kind = .text)
      (hp : k.value s = .string p.text) (hdefault : k.value .default = .string default.text) :
      Reads Layout.readPath default o p ↔ k.Holds o s :=
    Leaf.reads_iff_holds (fun p : Path => .string p.text)
      (hkind ▸ readPath_eq_ok_iff) path_inj hp hdefault
  cases part with
  | none =>
    simp only [Group.Holds, forall_paths_iff, Reads, layout_eq_iff,
      ← hleaf (k := .configDir) rfl rfl rfl, ← hleaf (k := .pdfDir) rfl rfl rfl,
      ← hleaf (k := .outputDir) rfl rfl rfl, ← hleaf (k := .mappedDir) rfl rfl rfl]
    exact Iff.rfl
  | some x =>
    simp only [Reads, layout_read_eq_ok_iff, Group.Holds, forall_paths_iff,
      ← hleaf (k := .configDir) rfl rfl rfl, ← hleaf (k := .pdfDir) rfl rfl rfl,
      ← hleaf (k := .outputDir) rfl rfl rfl, ← hleaf (k := .mappedDir) rfl rfl rfl]
    exact Iff.rfl

/-- How extraction is done is read from its part. -/
theorem reads_extraction_iff {part : Option Value} {s : Settings} :
    Reads ExtractionSettings.read .default part s.extraction ↔ Group.extraction.Holds part s := by
  have hthreshold {o : Option Value} :
      Reads Json.readFloat ExtractionSettings.default.threshold o s.extraction.threshold ↔
        Leaf.threshold.Holds o s :=
    Leaf.reads_iff_holds _ readFloat_eq_ok_iff float_inj rfl rfl
  have hsizeLimit {o : Option Value} :
      Reads Json.readNat ExtractionSettings.default.sizeLimit o s.extraction.sizeLimit ↔
        Leaf.sizeLimit.Holds o s :=
    Leaf.reads_iff_holds _ readNat_eq_ok_iff nat_inj rfl rfl
  have hcontinueOnError {o : Option Value} :
      Reads Json.readBool ExtractionSettings.default.continueOnError o
        s.extraction.continueOnError ↔ Leaf.continueOnError.Holds o s :=
    Leaf.reads_iff_holds _ readBool_eq_ok_iff bool_inj rfl rfl
  cases part with
  | none =>
    simp only [Group.Holds, forall_extraction_iff, Reads, extraction_eq_iff, ← hthreshold,
      ← hsizeLimit, ← hcontinueOnError]
  | some x =>
    simp only [Reads, extraction_read_eq_ok_iff, Group.Holds, forall_extraction_iff, ← hthreshold,
      ← hsizeLimit, ← hcontinueOnError]
    exact Iff.rfl

/-- **Settings are read iff they are a record of groups and every setting takes its part.** -/
theorem read_eq_ok_iff {s : Settings} : Settings.read v = .ok s ↔
    v.Record groupNames fun get => ∀ g : Group, g.Holds (get g.key) s := by
  have hgroups {P : Group → Prop} : (∀ g, P g) ↔ P .paths ∧ P .extraction :=
    ⟨fun h => ⟨h _, h _⟩, fun h g => by cases g; exacts [h.1, h.2]⟩
  suffices (∃ s', Settings.shape.read .default v = .ok s' ∧ s' = s) ↔ v.Record _ _ by
    simpa [Settings.read]
  refine Shape.exists_read_iff shape_regular (fun get => ?_) fun get _ => by
    simp [Settings.shape]
  refine (exists_fill_cons_iff (Field.sets_optional _ _ _) Settings.default.paths rfl fun l =>
    exists_fill_cons_iff (Field.sets_optional _ _ _) Settings.default.extraction rfl fun e =>
      exists_fill_nil_iff).trans ?_
  simp only [hgroups, ← reads_paths_iff, ← reads_extraction_iff]
  obtain ⟨l, e⟩ := s
  simp
  exact Iff.rfl

end Settings

end PolicyFields
