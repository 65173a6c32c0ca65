import PolicyFields.CommandLine.SettingsEditor
import PolicyFields.Proofs.CommandLine.Yields
import PolicyFields.Proofs.Settings.Given
import PolicyFields.Proofs.Settings.Stored

/-!
# Settings that are changed in their file

* `changeSetting_cases` — **a change fails and leaves all files as they are, or the file holds the
  text of the changed settings**.
* `editSettings_set_leaf` — **a change is all or nothing and touches one setting**.
* `editSettings_set_given` — **after a change the settings are what the value says of them**, but a
  misspelled key in it is passed over.

Floats are taken to be read from their text as they were (`IsRestored`).
-/

namespace PolicyFields.CommandLine

open Json (Value Tree IsRestored Lacks)
open Settings (Leaf keys valueOf)

variable {f g : Files} {p : Path} {name raw : String} {printed : List Piece}

/-- The settings that a change begins with: those in the file, or the usual ones without a file. -/
def settingsAt (f : Files) (p : Path) : Except Failure Settings :=
  if f.has p then Settings.load f p else .ok .default

/-! ## Writing -/

/-- Settings are written if they can be; if not, directories may have been made. -/
theorem writeSettings_cases (s : Settings) (f : Files) (p : Path) :
    (f.CanWrite p ∧ ∃ g, (writeSettings s p).Yields f (.ok ()) g ∧
      g.readText p = .ok s.toValue.pretty) ∨
    (¬ f.CanWrite p ∧ ∃ c g, (writeSettings s p).Yields f (.error c) g ∧ f.SameFiles g) := by
  rw [Files.canWrite_iff (.text s.toValue.pretty)]
  cases hmake : f.makeParents p with
  | error e =>
    refine .inr ⟨by simp, _, f, .bind_error (.replaceFiles_error hmake), .refl f⟩
  | ok g =>
    have hsame := Files.makeParents_sameFiles hmake
    have hmade : (makeParents p).Yields f (.ok ()) g := .replaceFiles_ok hmake
    cases hwrite : g.write p (.text s.toValue.pretty) with
    | error e =>
      have hsave : s.save g p = .error (.file e) := by rw [Settings.save, hwrite]; rfl
      exact .inr ⟨by simp [hwrite], _, g, hmade.bind (.replaceFiles_error hsave), hsame⟩
    | ok k =>
      have hsave : s.save g p = .ok k := by rw [Settings.save, hwrite]; rfl
      refine .inl ⟨⟨g, k, rfl, hwrite⟩, k, hmade.bind (.replaceFiles_ok hsave), ?_⟩
      exact Files.readText_of_write hwrite

/-! ## Changing -/

/-- The settings in the file can be read, and changed as asked. -/
def Accepts (f : Files) (p : Path) (name raw : String) (before after : Settings) : Prop :=
  settingsAt f p = .ok before ∧ before.replace name (valueOf raw) = .ok after

/-- **A change fails and leaves all files as they are, or the file holds the text of the changed
settings.** -/
theorem changeSetting_cases (f : Files) (p : Path) (name raw : String) (printed : List Piece) :
    (∃ c g, changeSetting p name raw ⟨f, printed⟩ = (.error c, ⟨g, printed⟩) ∧ f.SameFiles g ∧
      ¬ (f.CanWrite p ∧ ∃ before after, Accepts f p name raw before after)) ∨
    ∃ before after g, changeSetting p name raw ⟨f, printed⟩ =
        (.ok (), ⟨g, printed ++ linePieces ("✓ " ++ name ++ " = " ++ (valueOf raw).compact)⟩) ∧
      f.CanWrite p ∧ Accepts f p name raw before after ∧
      g.readText p = .ok after.toValue.pretty := by
  unfold changeSetting
  cases hbefore : settingsAt f p with
  | error e =>
    refine .inl ⟨_, f, Step.Yields.bind_error (.fromFiles_error hbefore) printed, .refl f, ?_⟩
    simp [Accepts, hbefore]
  | ok before =>
    have hread : (fromFiles .failure fun f => settingsAt f p).Yields f (.ok before) f :=
      .fromFiles_ok hbefore
    cases hafter : before.replace name (valueOf raw) with
    | error e =>
      have hhand := Step.Yields.hand_error complainSetting hafter f
      refine .inl ⟨_, f, hread.bind hhand.bind_error printed, .refl f, ?_⟩
      simp [Accepts, hbefore, hafter]
    | ok after =>
      have hhand := Step.Yields.hand_ok complainSetting hafter f
      obtain ⟨hcan, g, hwrite, htext⟩ | ⟨hcannot, c, g, hwrite, hsame⟩ :=
        writeSettings_cases after f p
      · refine .inr ⟨before, after, g, ?_, hcan, ⟨hbefore, hafter⟩, htext⟩
        exact (hread.bind_apply printed).trans <| (hhand.bind_apply printed).trans <|
          (hwrite.bind_apply printed).trans (say_apply _ _ _)
      · exact .inl ⟨c, g, (hread.bind (hhand.bind hwrite.bind_error)) printed, hsame,
          fun h => hcannot h.1⟩

/-- What is accepted is done if the file can be written. -/
theorem changeSetting_of_accepts {before after : Settings} (h : Accepts f p name raw before after)
    (hcan : f.CanWrite p) (printed : List Piece) :
    ∃ g printed', changeSetting p name raw ⟨f, printed⟩ = (.ok (), ⟨g, printed'⟩) ∧
      g.readText p = .ok after.toValue.pretty := by
  obtain ⟨-, -, -, -, hcannot⟩ | ⟨before', after', g, hrun, -, h', htext⟩ :=
    changeSetting_cases f p name raw printed
  · exact absurd ⟨hcan, before, after, h⟩ hcannot
  · obtain rfl := Except.ok.inj (h'.1.symm.trans h.1)
    obtain rfl := Except.ok.inj (h'.2.symm.trans h.2)
    exact ⟨g, _, hrun, htext⟩

theorem canWrite_empty : (Files.empty []).CanWrite ⟨"s.json"⟩ := by
  unfold Files.CanWrite
  decide

/-! ## One setting -/

/-- The file is absent, or the keys of the setting are absent from it. -/
def IsAbsent (f : Files) (p : Path) (k : Leaf) : Prop :=
  f.has p = false ∨ ∃ text, f.readText p = .ok text ∧ Lacks k.keys (Tree.ofText text.toList).1

/-- A setting that is absent is as usual. -/
theorem value_of_isAbsent {s : Settings} {k : Leaf} (hs : settingsAt f p = .ok s)
    (h : IsAbsent f p k) : k.value s = k.value .default := by
  unfold settingsAt at hs
  split at hs
  · rename_i hthere
    obtain hfile | ⟨text, htext, hlacks⟩ := h
    · rw [hfile] at hthere
      cases hthere
    · exact Settings.value_of_load hs htext hlacks
  · obtain rfl := Except.ok.inj hs
    rfl

/-- The size limit that a change begins with has 64 bits. -/
theorem sizeLimit_lt_of_settingsAt {s : Settings} (hs : settingsAt f p = .ok s) :
    s.extraction.sizeLimit < 2 ^ 64 := by
  unfold settingsAt at hs
  split at hs
  · exact Settings.sizeLimit_lt_of_load hs
  · obtain rfl := Except.ok.inj hs
    decide

/-- Settings that have been changed are loaded from the file. -/
theorem load_of_accepts {before after : Settings} (h : Accepts f p name raw before after)
    (htext : g.readText p = .ok after.toValue.pretty)
    (hthreshold : IsRestored after.extraction.threshold) : Settings.load g p = .ok after :=
  Settings.load_of_readText (Settings.sizeLimit_lt_of_replace (Settings.valueOf_readable raw)
    (sizeLimit_lt_of_settingsAt h.1) h.2) hthreshold htext

/-- **A change is all or nothing and touches one setting.** If it fails, no file is created or
changed. A setting is changed iff its file can be written, the settings in it can be read and the
value is of its kind; then it becomes the value, and every other setting is what it was. -/
theorem editSettings_set_leaf (around : Surroundings) (named : Option Path) (name raw : String)
    (f : Files) (printed : List Piece) :
    let p := named.getD around.settings
    ∃ result g printed', editSettings around named (.set name raw) ⟨f, printed⟩ =
        (result, ⟨g, printed'⟩) ∧
      (result ≠ .ok () → f.SameFiles g) ∧
      ∀ k : Leaf, keys name = k.keys →
        (result = .ok () ↔ f.CanWrite p ∧ (∃ before, settingsAt f p = .ok before) ∧
          ∃ w, k.kind.Takes (valueOf raw) w) ∧
        (result = .ok () → ∃ before after, settingsAt f p = .ok before ∧
          (∀ j, IsAbsent f p j → j.value before = j.value .default) ∧
          (IsRestored after.extraction.threshold → Settings.load g p = .ok after) ∧
          k.Becomes (valueOf raw) (k.value after) ∧
          ∀ j ≠ k, j.value after = j.value before) := by
  intro p
  have haccepts {k : Leaf} (hname : keys name = k.keys) : (∃ before after,
      Accepts f p name raw before after) ↔
        (∃ before, settingsAt f p = .ok before) ∧ ∃ w, k.kind.Takes (valueOf raw) w := by
    simp only [Accepts, exists_and_left, Settings.exists_replace_iff hname, exists_and_right]
  obtain ⟨c, g, hrun, hsame, hcannot⟩ | ⟨before, after, g, hrun, hcan, haccepted, htext⟩ :=
    changeSetting_cases f p name raw printed
  · refine ⟨_, _, _, hrun, fun _ => hsame, ?_⟩
    intro k hname
    rw [haccepts hname] at hcannot
    exact ⟨iff_of_false nofun hcannot, nofun⟩
  · refine ⟨_, _, _, hrun, fun h => absurd rfl h, ?_⟩
    intro k hname
    refine ⟨iff_of_true rfl ⟨hcan, (haccepts hname).1 ⟨before, after, haccepted⟩⟩, fun _ => ?_⟩
    exact ⟨before, after, haccepted.1, fun j => value_of_isAbsent haccepted.1,
      load_of_accepts haccepted htext,
      Settings.becomes_of_given (Settings.valueOf_readable raw) haccepted.2 (.itself hname),
      ((Settings.replace_leaf_iff hname).1 haccepted.2).2⟩

/-- The directory of the documents is changed in a file that says the threshold. -/
theorem editSettings_set_leaf_pdfDir :
    let text := "\x7b\"extraction\":\x7b\"success_threshold\":90.5\x7d\x7d"
    let f : Files := ⟨[], [(["s.json"], .file (.text text))]⟩
    ∃ g printed after, editSettings ⟨⟨"s.json"⟩, "now"⟩ none (.set "paths.pdf_dir" "in") ⟨f, []⟩ =
        (.ok (), ⟨g, printed⟩) ∧
      Settings.load g ⟨"s.json"⟩ = .ok after ∧ after.paths.pdfDir = ⟨"in"⟩ ∧
      after.extraction.threshold = 90.5 ∧ after.paths.outputDir = Layout.default.outputDir := by
  intro text f
  have hvalue : valueOf "in" = .string "in" := by
    have hfails : (Value.ofText "in").toBool = false := by decide +kernel
    unfold valueOf
    split
    · rename_i v hv
      rw [hv] at hfails
      cases hfails
    · rfl
  obtain ⟨result, g, printed, hrun, -, hset⟩ :=
    editSettings_set_leaf ⟨⟨"s.json"⟩, "now"⟩ none "paths.pdf_dir" "in" f []
  have hsaid : settingsAt f ⟨"s.json"⟩ =
      .ok ⟨.default, 90.5, Regex.Options.defaultSizeLimit, false⟩ := by decide +kernel
  have hcan : f.CanWrite ⟨"s.json"⟩ := by
    unfold Files.CanWrite
    decide
  have htakes : Settings.Kind.text.Takes (valueOf "in") (.string "in") := hvalue ▸ .text "in"
  obtain ⟨hchanged, hchange⟩ := hset .pdfDir (by decide)
  have hresult : result = .ok () := hchanged.2 ⟨hcan, ⟨_, hsaid⟩, _, htakes⟩
  obtain ⟨before, after, hbefore, -, hload, hbecomes, hothers⟩ := hchange hresult
  obtain rfl := Except.ok.inj (hsaid.symm.trans hbefore)
  have hthreshold : after.extraction.threshold = 90.5 :=
    Settings.float_inj.1 (hothers .threshold (by decide))
  refine ⟨g, printed, after, hresult ▸ hrun, hload ?_, ?_, hthreshold,
    Settings.path_inj.1 (hothers .outputDir (by decide))⟩
  · rw [hthreshold]
    decide +kernel
  · have hagrees := hbecomes.rounded
    rw [hvalue] at hagrees
    exact Settings.path_inj.1 (Json.Value.agrees_string_iff.1 hagrees)

/-- A threshold becomes another number than a whole one of more than 53 bits. -/
theorem editSettings_set_leaf_inexact :
    keys "extraction.success_threshold" = Leaf.threshold.keys ∧
      ∃ g printed after, editSettings ⟨⟨"s.json"⟩, "now"⟩ none
          (.set "extraction.success_threshold" "9007199254740993") ⟨.empty [], []⟩ =
          (.ok (), ⟨g, printed⟩) ∧
        IsRestored after.extraction.threshold ∧ Settings.load g ⟨"s.json"⟩ = .ok after ∧
        ¬ (valueOf "9007199254740993").Agrees (Leaf.threshold.value after) := by
  have hname : keys "extraction.success_threshold" = Leaf.threshold.keys := by decide
  have hvalue : valueOf "9007199254740993" = .int 9007199254740993 := by
    have htext : "9007199254740993" = (Value.int 9007199254740993).pretty := by decide +kernel
    rw [htext, valueOf, Value.ofText_pretty (.int (by decide) (by decide))]
  let after : Settings := ⟨.default, 9007199254740992.0, Regex.Options.defaultSizeLimit, false⟩
  have haccepted : Accepts (.empty []) ⟨"s.json"⟩ "extraction.success_threshold" "9007199254740993"
      .default after := ⟨rfl, by decide +kernel⟩
  have hthreshold : IsRestored after.extraction.threshold := by decide +kernel
  obtain ⟨g, printed, hrun, htext⟩ := changeSetting_of_accepts haccepted canWrite_empty []
  refine ⟨hname, g, printed, after, hrun, hthreshold, load_of_accepts haccepted htext hthreshold,
    ?_⟩
  change ¬ (valueOf "9007199254740993").Agrees (.float 9007199254740992.0)
  rw [hvalue, Json.Value.agrees_float_iff]
  decide +kernel

/-! ## What a value says -/

variable {around : Surroundings} {named : Option Path} {s : Settings} {part : Value}

theorem loadSettings_yields (h : Settings.load g (named.getD around.settings) = .ok s) :
    (loadSettings around named).Yields g (.ok s) g := by
  cases named with
  | some p => exact .fromFiles_ok h
  | none =>
    obtain ⟨text, htext, -⟩ := Settings.load_eq_ok_iff.1 h
    exact .fromFiles_ok ((if_pos (Files.has_of_readText htext)).trans h)

/-- The part of loaded settings at a name is shown. -/
theorem editSettings_get (h : Settings.load g (named.getD around.settings) = .ok s)
    (hpart : s.tree.at? (keys name) = some part) (printed : List Piece) :
    editSettings around named (.get name) ⟨g, printed⟩ =
      (.ok (), ⟨g, printed ++ linePieces part.pretty⟩) := by
  have hlookup : s.lookup name = .ok part := by rw [Settings.lookup, hpart]
  have hhand := Step.Yields.hand_ok complainSetting hlookup g
  exact ((loadSettings_yields h).bind_apply printed).trans (hhand.bind_apply printed)

/-- **After a change the settings are what the value says of them.** Each setting to which it gives
a value has become it, which is what is shown. The keys in it are those of settings, but for members
of an object that are no settings: leaving them out makes no difference. -/
theorem editSettings_set_given {printed' : List Piece}
    (h : editSettings around named (.set name raw) ⟨f, printed⟩ = (.ok (), ⟨g, printed'⟩)) :
    ∃ before after part, Accepts f (named.getD around.settings) name raw before after ∧
      after.tree.at? (keys name) = some part ∧
      (IsRestored after.extraction.threshold → ∀ printed,
        editSettings around named (.get name) ⟨g, printed⟩ =
          (.ok (), ⟨g, printed ++ linePieces part.pretty⟩)) ∧
      (∀ (k : Leaf) (x : Value), k.Given (keys name) (valueOf raw) x → ∃ rest value,
        keys name ++ rest = k.keys ∧ part.at? rest = some value ∧ k.Becomes x value) ∧
      ∀ path, (valueOf raw).Mentions path → (∃ x, part.at? path = some x) ∨
        ∃ key rest, path = key :: rest ∧ (valueOf raw).Mentions [key] ∧ part.at? [key] = none ∧
          before.replace name ((valueOf raw).without key) = .ok after := by
  obtain ⟨c, k, hrun, -⟩ | ⟨before, after, k, hrun, -, haccepted, htext⟩ :=
    changeSetting_cases f (named.getD around.settings) name raw printed
  · cases h.symm.trans hrun
  · obtain ⟨rfl, -⟩ := Desk.mk.inj (congrArg Prod.snd (h.symm.trans hrun))
    obtain ⟨part, hpart⟩ := Settings.exists_at?_of_replace haccepted.2
    have hat (path : List String) : after.tree.at? (keys name ++ path) = part.at? path := by
      rw [Value.at?_append, hpart]
      rfl
    refine ⟨before, after, part, haccepted, hpart, fun hthreshold printed => ?_,
      fun k x hx => ?_, fun path hpath => ?_⟩
    · exact editSettings_get (load_of_accepts haccepted htext hthreshold) hpart printed
    · obtain ⟨rest, hrest⟩ := hx.exists_keys
      refine ⟨rest, k.value after, hrest, ?_,
        Settings.becomes_of_given (Settings.valueOf_readable raw) haccepted.2 hx⟩
      rw [← hat, hrest, Settings.at?_tree_leaf]
    · simpa only [hat] using Settings.named_or_without haccepted.2 hpath

/-- A text is checked to mean an object of one member. -/
theorem valueOf_eq_member {key t : String} (h : (match valueOf raw with
    | .object [(key', .string t')] => decide (key' = key ∧ t' = t)
    | _ => false) = true) : valueOf raw = .object [(key, .string t)] := by
  split at h
  · obtain ⟨rfl, rfl⟩ := of_decide_eq_true h
    assumption
  · cases h

/-- The directory of the documents is said in the layout. -/
theorem editSettings_set_given_pdfDir :
    let around : Surroundings := ⟨⟨"s.json"⟩, "now"⟩
    let raw := "\x7b\"pdf_dir\":\"in\"\x7d"
    ∃ (g : Files) (printed : List Piece) (part : Value),
      editSettings around none (.set "paths" raw) ⟨.empty [], []⟩ = (.ok (), ⟨g, printed⟩) ∧
      part.at? ["pdf_dir"] = some (.string "in") ∧
      editSettings around none (.get "paths") ⟨g, []⟩ =
        (.ok (), ⟨g, linePieces part.pretty⟩) := by
  intro around raw
  have hvalue : valueOf raw = .object [("pdf_dir", .string "in")] :=
    valueOf_eq_member (by decide +kernel)
  let changed : Settings := ⟨{ Layout.default with pdfDir := ⟨"in"⟩ }, .default⟩
  have haccepted : Accepts (.empty []) ⟨"s.json"⟩ "paths" raw .default changed :=
    ⟨rfl, by decide +kernel⟩
  obtain ⟨g, printed, hrun, -⟩ := changeSetting_of_accepts haccepted canWrite_empty []
  have hset : editSettings around none (.set "paths" raw) ⟨.empty [], []⟩ =
      (.ok (), ⟨g, printed⟩) := hrun
  obtain ⟨before, after, part, ⟨hbefore, hafter⟩, -, hget, hgiven, -⟩ :=
    editSettings_set_given hset
  obtain rfl := Except.ok.inj (hbefore.symm.trans haccepted.1)
  obtain rfl := Except.ok.inj (hafter.symm.trans haccepted.2)
  have hfield : Leaf.pdfDir.Given (keys "paths") (valueOf raw) (.string "in") :=
    .member (by decide) (by rw [hvalue]; rfl)
  obtain ⟨rest, value, hrest, hpart, hbecomes⟩ := hgiven .pdfDir (.string "in") hfield
  have hkeys : keys "paths" = ["paths"] := by decide
  rw [hkeys] at hrest
  obtain rfl : rest = ["pdf_dir"] := (List.cons.inj hrest).2
  obtain rfl := Json.Value.agrees_string_iff.1 hbecomes.rounded
  exact ⟨g, printed, part, hset, hpart, hget (by decide +kernel) []⟩

/-- A misspelled key in a layout is passed over: all settings become as usual. -/
theorem editSettings_set_given_misspelled :
    let raw := "\x7b\"pdf_dri\":\"x\"\x7d"
    (valueOf raw).Mentions ["pdf_dri"] ∧
      (∀ s : Settings, s.tree.at? (keys "paths" ++ ["pdf_dri"]) = none) ∧
      ∃ (g : Files) (printed : List Piece), editSettings ⟨⟨"s.json"⟩, "now"⟩ none
          (.set "paths" raw) ⟨.empty [], []⟩ = (.ok (), ⟨g, printed⟩) ∧
        Settings.load g ⟨"s.json"⟩ = .ok .default := by
  intro raw
  have hvalue : valueOf raw = .object [("pdf_dri", .string "x")] :=
    valueOf_eq_member (by decide +kernel)
  have haccepted : Accepts (.empty []) ⟨"s.json"⟩ "paths" raw .default .default :=
    ⟨rfl, by decide +kernel⟩
  obtain ⟨g, printed, hrun, htext⟩ := changeSetting_of_accepts haccepted canWrite_empty []
  refine ⟨hvalue ▸ .member List.mem_cons_self, fun s => ?_, g, printed, hrun,
    load_of_accepts haccepted htext (by decide +kernel)⟩
  refine Option.eq_none_iff_forall_ne_some.2 fun part hpart => ?_
  obtain hnil | ⟨g, hg⟩ | ⟨k, hk⟩ := Settings.exists_at?_tree_iff.1 ⟨part, hpart⟩
  · cases hnil
  · revert hg
    cases g <;> decide
  · revert hk
    cases k <;> decide

end PolicyFields.CommandLine
