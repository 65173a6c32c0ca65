import PolicyFields.Mapping.Artifact
import PolicyFields.Proofs.Mapping.Validation

/-!
# Loaded configurations

* `exists_configParse_iff` — a configuration loads iff its members are of their kinds and every one
  of its strategies loads; `configParse_eq_error_iff` — otherwise the **least field** whose strategy
  does not load is reported.
* `Config.mapValueAsking` — mapping as it asks matches for groups: it stops when a pattern lacks a
  group that is asked for.
* `mapValueAsking_eq` — **in a loaded configuration it never stops**.
-/

namespace PolicyFields.Mapping

open Json (Value Shape Field exists_fill_cons_iff exists_fill_nil_iff)
open Traversal
open Regex (Options Machine Match)

variable {v : Value} {o : Options} {field : String}

/-! ## Configurations -/

/-- A configuration with the strategies `d`, not yet looked at: a company that is a text, any
version. -/
def IsConfig (d : Dict Value) : Value → Prop :=
  Value.Record ["company", "version", "field_mappings"] fun get =>
    (∀ x, get "company" = some x → x.IsNullOr Value.IsText) ∧
      ∃ members, get "field_mappings" = some (.object members) ∧ d = Dict.ofList members

theorem configShape_regular : (configShape : Shape Value ConfigParts).Regular where
  names := by decide
  commutes := by simp [configShape]

theorem exists_readConfig_iff {d : Dict Value} :
    (∃ parts, readConfig v = .ok (parts, d)) ↔ IsConfig d v := by
  have hread : (∃ parts, readConfig v = .ok (parts, d)) ↔
      ∃ parts, configShape.read ⟨none, none, none⟩ v = .ok parts ∧ parts.fields = some d := by
    simp only [readConfig, bind_eq_ok_iff, present_eq_ok_iff, Json.pure_eq_ok, Except.ok.injEq,
      Prod.mk.injEq]
    constructor
    · rintro ⟨_, parts, hparts, d, hd, rfl, rfl⟩
      exact ⟨parts, hparts, hd⟩
    · rintro ⟨parts, hparts, hd⟩
      exact ⟨_, parts, hparts, d, hd, rfl, rfl⟩
  rw [hread]
  refine Shape.exists_read_iff configShape_regular (fun get => ?_) fun get h => ?_
  · refine (exists_fill_cons_iff (Field.sets_optional _ _ _) none rfl fun c =>
      exists_fill_cons_iff (Field.sets_optional _ _ _) none rfl fun version =>
        exists_fill_cons_iff ((Field.sets_mandatory _ _ _).ofSome fun a (r : ConfigParts) =>
          { r with fields := a }) none rfl fun d => exists_fill_nil_iff).trans ?_
    constructor
    · rintro ⟨c, hc, version, -, _, hd, rfl⟩
      obtain ⟨x, hx, hd⟩ := Json.reads_some_iff.1 hd
      obtain ⟨members, rfl, rfl⟩ := Json.readDict_value_eq_ok_iff.1 hd
      exact ⟨Json.exists_reads_optionText_iff.1 ⟨c, hc⟩, members, hx, rfl⟩
    · rintro ⟨hc, members, hx, rfl⟩
      obtain ⟨c, hc⟩ := Json.exists_reads_optionText_iff.2 hc
      obtain ⟨version, hversion⟩ := (Json.exists_reads_iff fun _ => Json.exists_readOption_iff
        fun x => iff_true_intro ⟨x, Json.value_eq_ok_iff.2 rfl⟩).2 fun _ _ => .inr trivial
      exact ⟨c, hc, version, hversion, _,
        Json.reads_some_iff.2 ⟨_, hx, Json.readDict_value_eq_ok_iff.2 ⟨members, rfl, rfl⟩⟩, rfl⟩
  · obtain ⟨-, members, hmembers, -⟩ := h
    simp [configShape, hmembers]

theorem exists_parseFields_iff {d : Dict Value} : (∃ fields, parseFields o d.entries = .ok fields) ↔
    ∀ name x, d.find? name = some x → ∃ s, Strategy.parse name o x = .ok s := by
  rw [parseFields, exists_mapM_iff]
  simp only [keyed_eq_ok_iff, Dict.find?_eq_some_iff, Prod.forall]
  refine forall₂_congr fun name x => forall_congr' fun _ => ?_
  constructor
  · rintro ⟨r, -, hr⟩
    exact ⟨r.2, hr⟩
  · rintro ⟨s, hs⟩
    exact ⟨(name, s), rfl, hs⟩

/-- The first entry whose strategy does not load is the one with the least key. -/
theorem parseFields_eq_error_iff {d : Dict Value} {err : ConfigError} :
    parseFields o d.entries = .error err ↔
      ∃ name x, d.find? name = some x ∧ Strategy.parse name o x = .error err ∧
        ∀ name' x', name' < name → d.find? name' = some x' →
          ∃ s, Strategy.parse name' o x' = .ok s := by
  rw [parseFields, mapM_eq_error_iff]
  simp only [keyed_eq_ok_iff, keyed_eq_error_iff, Dict.find?_eq_some_iff]
  constructor
  · rintro ⟨before, ⟨name, x⟩, after, hentries, hbefore, hx⟩
    refine ⟨name, x, by simp [hentries], hx, fun name' x' hlt hmem => ?_⟩
    have hsorted := d.sorted
    rw [hentries, List.pairwise_append] at hsorted
    rw [hentries] at hmem
    rcases List.mem_append.1 hmem with hmem | hmem
    · obtain ⟨r, -, hr⟩ := hbefore _ hmem
      exact ⟨r.2, hr⟩
    · rcases List.mem_cons.1 hmem with heq | hmem
      · obtain ⟨rfl, rfl⟩ := Prod.mk.inj heq
        exact absurd hlt (String.lt_irrefl _)
      · exact absurd hlt (String.lt_asymm ((List.pairwise_cons.1 hsorted.2.1).1 _ hmem))
  · rintro ⟨name, x, hmem, hx, hleast⟩
    obtain ⟨before, after, hentries⟩ := List.append_of_mem hmem
    refine ⟨before, (name, x), after, hentries, fun e he => ?_, hx⟩
    have hsorted := d.sorted
    rw [hentries, List.pairwise_append] at hsorted
    obtain ⟨s, hs⟩ := hleast e.1 e.2 (hsorted.2.2 e he _ List.mem_cons_self)
      (by rw [hentries]; exact List.mem_append_left _ he)
    exact ⟨(e.1, s), rfl, hs⟩

theorem shaped_readConfig {d : Dict Value} (h : IsConfig d v) :
    ∃ parts, shaped "field_mappings" (readConfig v) = .ok (parts, d) := by
  obtain ⟨parts, hparts⟩ := exists_readConfig_iff.2 h
  exact ⟨parts, shaped_eq_ok_iff.2 hparts⟩

theorem configParse_eq_ok_iff {c : Config} : Config.parse o v = .ok c ↔
    ∃ parts d fields, readConfig v = .ok (parts, d) ∧ parseFields o d.entries = .ok fields ∧
      c = ⟨parts.company.getD "unknown", (parts.version.map Value.plain).getD "1.0",
        Dict.ofList fields⟩ := by
  simp only [Config.parse, Config.check, bind_eq_ok_iff, shaped_eq_ok_iff, Json.pure_eq_ok,
    Except.ok.injEq]
  constructor
  · rintro ⟨⟨parts, d⟩, hparts, fields, hfields, rfl⟩
    exact ⟨parts, d, fields, hparts, hfields, rfl⟩
  · rintro ⟨parts, d, fields, hparts, hfields, rfl⟩
    exact ⟨(parts, d), hparts, fields, hfields, rfl⟩

/-- **A configuration loads iff its members are of their kinds and all its strategies load.** -/
theorem exists_configParse_iff : (∃ c, Config.parse o v = .ok c) ↔ ∃ d, IsConfig d v ∧
    ∀ name x, d.find? name = some x → ∃ s, Strategy.parse name o x = .ok s := by
  simp only [configParse_eq_ok_iff, ← exists_parseFields_iff, ← exists_readConfig_iff]
  constructor
  · rintro ⟨-, parts, d, fields, hparts, hfields, -⟩
    exact ⟨d, ⟨parts, hparts⟩, fields, hfields⟩
  · rintro ⟨d, ⟨parts, hparts⟩, fields, hfields⟩
    exact ⟨_, parts, d, fields, hparts, hfields, rfl⟩

/-- **Otherwise the least field whose strategy does not load is reported.** -/
theorem configParse_eq_error_iff {d : Dict Value} (h : IsConfig d v) {err : ConfigError} :
    Config.parse o v = .error err ↔
      ∃ name x, d.find? name = some x ∧ Strategy.parse name o x = .error err ∧
        ∀ name' x', name' < name → d.find? name' = some x' →
          ∃ s, Strategy.parse name' o x' = .ok s := by
  obtain ⟨parts, hparts⟩ := shaped_readConfig h
  rw [← parseFields_eq_error_iff, Config.parse, hparts]
  change Config.check o (parts, d) = _ ↔ _
  rw [Config.check, bind_eq_error_iff]
  simp [Json.pure_eq_ok]

/-! ## Runs that ask for groups

A run in `Option` that follows the mapping of a value step by step and stops where a match is asked
for a group that its pattern lacks. -/

/-- The text of a group of a match, if the machine has the group. -/
def askGroup (machine : Machine) (m : Match) (text : List Char) (index : Nat) :
    Option (Option String) :=
  if index < machine.groupCount then some (Machine.groupText? m text index) else none

namespace PickRules

variable (cfg : PickRules)

/-- `PickRules.pickFrom`, asking. -/
def pickFromAsking (text : String) : Option (List String) :=
  let found := cfg.pickers.mapM fun p => match p.source.machine.first? text.toList with
    | some m => askGroup p.source.machine m text.toList p.group
    | none => some none
  found.map fun found => found.filterMap id

/-- `PickRules.pick?`, asking. -/
def pickAsking? (items : List Value) : Option (Option String) :=
  (items.mapM fun v => cfg.pickFromAsking v.plain).map fun found =>
    match (found.flatten.filterMap digitsNumber?).max? with
    | some n => some (String.ofList (Number.natText n))
    | none => found.flatten.head?

/-- `PickRules.apply`, asking. -/
def applyAsking (v : Value) : Option Value :=
  if v.isFalsy then some cfg.default
  else match v with
    | .array items => (cfg.pickAsking? items).map fun
      | some text => if text.isEmpty then cfg.default else cfg.lookup text
      | none => cfg.default
    | v => some (cfg.lookup v.plain)

end PickRules

namespace AmountRules

/-- `AmountRule.outcome?`, asking. -/
def outcomeAsking? (r : AmountRule) (text : List Char) : Option (Option Value) :=
  match r.source.machine.first? text with
  | none => some none
  | some m => match r.action with
    | .literal output => some (some output)
    | .transform respelling => (askGroup r.source.machine m text 1).map fun captured =>
      some (.string (respelling.apply (captured.getD "")))

/-- `AmountRules.hit?`, asking. -/
def hitAsking? (cfg : AmountRules) (v : Value) : Option (Option Value) :=
  cfg.rules.findSomeM? fun r => outcomeAsking? r v.plain.toList

/-- `AmountRules.apply`, asking. -/
def applyAsking (cfg : AmountRules) (v : Value) : Option Value :=
  if v.isFalsy then some (cfg.default.getD (.string ""))
  else
    let hit := match v with
      | .array items => items.findSomeM? cfg.hitAsking?
      | v => cfg.hitAsking? v
    hit.map fun hit => hit.getD (defaultOr cfg.default (.string v.plain))

end AmountRules

/-- `Strategy.apply`, asking; the other strategies have no groups. -/
def Strategy.applyAsking (s : Strategy) (v : Value) : Option (Except MappingError Value) :=
  match s with
  | pick rules => (rules.applyAsking v).map .ok
  | amount rules => (rules.applyAsking v).map .ok
  | s => some (s.apply v)

/-- `Config.mapValue`, asking. -/
def Config.mapValueAsking (c : Config) (field : String) (v : Value) :
    Option (Except MappingError Value) :=
  match c.fields.find? field with
  | some s => s.applyAsking v
  | none => some (.ok v)

/-! ### The groups are there -/

/-- Every group that a strategy asks for is a group of its pattern. -/
def Strategy.HasGroups : Strategy → Prop
  | .pick rules => ∀ p ∈ rules.pickers, p.group < p.source.machine.groupCount
  | .amount rules => ∀ r ∈ rules.rules, ∀ respelling, r.action = .transform respelling →
    1 < r.source.machine.groupCount
  | _ => True

theorem checkPicker_group_lt {p : String × Nat} {q : Picker} (h : checkPicker field o p = .ok q) :
    q.group < q.source.machine.groupCount := by
  obtain ⟨m, -, hq⟩ := bind_eq_ok_iff.1 h
  split at hq
  · cases hq
  · rename_i hgroup
    obtain rfl := Except.ok.inj hq
    exact Nat.not_le.1 hgroup

theorem checkAmountRule_one_lt {rule : String × Option Value × Option String} {r : AmountRule}
    (h : checkAmountRule field o rule = .ok r) {respelling : Respelling}
    (hr : r.action = .transform respelling) : 1 < r.source.machine.groupCount := by
  obtain ⟨m, -, h⟩ := bind_eq_ok_iff.1 h
  obtain ⟨action, -, h⟩ := bind_eq_ok_iff.1 h
  split at h
  · split at h
    · cases h
    · rename_i hgroup
      obtain rfl := Except.ok.inj h
      exact Nat.not_lt.1 hgroup
  · obtain rfl := Except.ok.inj h
    cases hr

theorem hasGroups_of_checkPick {parts : PickParts} {rules : PickRules}
    (h : checkPick field o parts = .ok rules) : (Strategy.pick rules).HasGroups := by
  unfold checkPick at h
  split at h
  · cases h
  · obtain ⟨pickers, hpickers, h⟩ := bind_eq_ok_iff.1 h
    obtain rfl := Except.ok.inj h
    intro p hp
    obtain ⟨_, -, hcheck⟩ := exists_of_mem_mapM hpickers hp
    exact checkPicker_group_lt hcheck

theorem hasGroups_of_checkAmount {parts : AmountParts} {rules : List AmountRule}
    (h : parts.rules.mapM (checkAmountRule field o) = .ok rules) :
    (Strategy.amount ⟨rules, parts.default⟩).HasGroups := by
  intro r hr respelling hrespelling
  obtain ⟨_, -, hcheck⟩ := exists_of_mem_mapM h hr
  exact checkAmountRule_one_lt hcheck hrespelling

/-- **A strategy that loads has the groups that it asks for.** -/
theorem hasGroups_of_parse {s : Strategy} (h : Strategy.parse field o v = .ok s) :
    s.HasGroups := by
  unfold Strategy.parse at h
  split at h
  · cases h
  · unfold parseKind? at h
    split_ifs at h
    · obtain ⟨_, -, h⟩ := bind_eq_ok_iff.1 h
      obtain rfl := Except.ok.inj h
      trivial
    · obtain ⟨_, -, h⟩ := bind_eq_ok_iff.1 h
      obtain rfl := Except.ok.inj h
      trivial
    · obtain ⟨_, -, h⟩ := bind_eq_ok_iff.1 h
      obtain ⟨rules, hrules, h⟩ := bind_eq_ok_iff.1 h
      obtain rfl := Except.ok.inj h
      exact hasGroups_of_checkPick hrules
    · obtain ⟨_, -, h⟩ := bind_eq_ok_iff.1 h
      obtain ⟨rules, hrules, h⟩ := bind_eq_ok_iff.1 h
      obtain rfl := Except.ok.inj h
      exact hasGroups_of_checkAmount hrules
    · obtain ⟨_, -, h⟩ := bind_eq_ok_iff.1 h
      obtain ⟨_, -, h⟩ := bind_eq_ok_iff.1 h
      obtain rfl := Except.ok.inj h
      trivial
    · obtain rfl := Except.ok.inj h
      trivial
  · cases h

/-! ### Runs do not stop -/

theorem askGroup_eq {machine : Machine} {m : Match} {text : List Char} {index : Nat}
    (h : index < machine.groupCount) :
    askGroup machine m text index = some (Machine.groupText? m text index) :=
  if_pos h

section Pick

variable {cfg : PickRules} (h : (Strategy.pick cfg).HasGroups)

include h

theorem PickRules.pickFromAsking_eq (text : String) :
    cfg.pickFromAsking text = some (cfg.pickFrom text) := by
  have hstep : ∀ p ∈ cfg.pickers, (match p.source.machine.first? text.toList with
      | some m => askGroup p.source.machine m text.toList p.group
      | none => some none) = some ((p.source.machine.first? text.toList).bind fun m =>
        Machine.groupText? m text.toList p.group) := by
    intro p hp
    cases p.source.machine.first? text.toList with
    | none => rfl
    | some m => exact askGroup_eq (h p hp)
  rw [pickFromAsking, mapM_eq_some_map hstep, pickFrom]
  simp [List.filterMap_map]

theorem PickRules.pickAsking?_eq (items : List Value) :
    cfg.pickAsking? items = some (cfg.pick? items) := by
  rw [pickAsking?, mapM_eq_some_map fun v _ => pickFromAsking_eq h v.plain, pick?, List.flatMap_def]
  rfl

theorem PickRules.applyAsking_eq (v : Value) : cfg.applyAsking v = some (cfg.apply v) := by
  unfold applyAsking apply
  split
  · rfl
  · cases v with
    | array items =>
      dsimp only
      rw [pickAsking?_eq h]
      rfl
    | _ => rfl

end Pick

section Amount

variable {cfg : AmountRules} (h : (Strategy.amount cfg).HasGroups)

include h

theorem AmountRules.outcomeAsking?_eq {r : AmountRule} (hr : r ∈ cfg.rules) (text : List Char) :
    outcomeAsking? r text = some (AmountRule.outcome? r text) := by
  unfold outcomeAsking? AmountRule.outcome?
  cases r.source.machine.first? text with
  | none => rfl
  | some m =>
    cases haction : r.action with
    | literal output => rfl
    | transform respelling =>
      dsimp only
      rw [askGroup_eq (h r hr respelling haction)]
      rfl

theorem AmountRules.hitAsking?_eq (v : Value) : cfg.hitAsking? v = some (cfg.hit? v) :=
  findSomeM?_eq_some_findSome? fun _ hr => outcomeAsking?_eq h hr _

theorem AmountRules.applyAsking_eq (v : Value) : cfg.applyAsking v = some (cfg.apply v) := by
  unfold applyAsking apply
  split
  · rfl
  · cases v with
    | array items =>
      dsimp only
      rw [findSomeM?_eq_some_findSome? fun v _ => hitAsking?_eq h v]
      rfl
    | _ =>
      dsimp only
      rw [hitAsking?_eq h]
      rfl

end Amount

theorem Strategy.applyAsking_eq {s : Strategy} (h : s.HasGroups) (v : Value) :
    s.applyAsking v = some (s.apply v) := by
  cases s with
  | pick rules => rw [applyAsking, PickRules.applyAsking_eq h]; rfl
  | amount rules => rw [applyAsking, AmountRules.applyAsking_eq h]; rfl
  | _ => rfl

theorem parse_of_find?_fields {c : Config} (h : Config.parse o v = .ok c) {s : Strategy}
    (hs : c.fields.find? field = some s) : ∃ x, Strategy.parse field o x = .ok s := by
  obtain ⟨_, d, fields, -, hfields, rfl⟩ := configParse_eq_ok_iff.1 h
  obtain ⟨e, -, he⟩ := exists_of_mem_mapM hfields (Dict.mem_of_find?_ofList hs)
  obtain ⟨rfl, hparse⟩ := keyed_eq_ok_iff.1 he
  exact ⟨_, hparse⟩

/-- **In a loaded configuration no mapping stops**: no match is asked for a group that its pattern
lacks. -/
theorem mapValueAsking_eq {c : Config} (h : Config.parse o v = .ok c) (x : Value) :
    c.mapValueAsking field x = some (c.mapValue field x) := by
  unfold Config.mapValueAsking Config.mapValue
  cases hs : c.fields.find? field with
  | none => rfl
  | some s =>
    obtain ⟨_, hparse⟩ := parse_of_find?_fields h hs
    exact Strategy.applyAsking_eq (hasGroups_of_parse hparse) x

/-! ## Loading -/

/-- **What loads, and what has been checked then.** A strategy loads iff it names its kind and its
payload is right; a configuration whose members are of their kinds loads iff all its strategies do,
and otherwise reports the least field whose strategy does not; and no mapping with a configuration
that has been loaded asks a match for a group that its pattern lacks. -/
theorem config_loading :
    (∀ field o v, (∃ s, Strategy.parse field o v = .ok s) ↔ IsStrategy o v) ∧
    (∀ o v, (∃ c, Config.parse o v = .ok c) ↔ ∃ d, IsConfig d v ∧
      ∀ field x, d.find? field = some x → ∃ s, Strategy.parse field o x = .ok s) ∧
    (∀ o v d err, IsConfig d v → (Config.parse o v = .error err ↔
      ∃ field x, d.find? field = some x ∧ Strategy.parse field o x = .error err ∧
        ∀ field' x', field' < field → d.find? field' = some x' →
          ∃ s, Strategy.parse field' o x' = .ok s)) ∧
    ∀ o v c, Config.parse o v = .ok c →
      ∀ field x, c.mapValueAsking field x = some (c.mapValue field x) :=
  ⟨fun _ _ _ => exists_strategyParse_iff, fun _ _ => exists_configParse_iff,
    fun _ _ _ _ h => configParse_eq_error_iff h, fun _ _ _ h _ x => mapValueAsking_eq h x⟩

/-- A configuration whose patterns have the groups that it names, and one with two strategies that
do not load. -/
theorem config_loading_groups :
    let v : Value := .object [("field_mappings", .object [
      ("A", .object [("default", .null), ("extract_patterns", .array [.object [
        ("group", .nat 1), ("pattern", .string "(7)")]]), ("type", .string "extract_normalize")]),
      ("B", .object [("mappings", .array [.object [("pattern", .string "(a)"),
        ("transform", .string "format_simple_amount")]]),
        ("type", .string "amount_normalization")])])]
    let w : Value := .object [("field_mappings", .object [
      ("A", .object [("type", .string "fixed")]), ("B", .object [("type", .nat 5)]),
      ("C", .object [])])]
    (∃ c, Config.parse .plain v = .ok c ∧
      ∀ field x, c.mapValueAsking field x = some (c.mapValue field x)) ∧
    Config.parse .plain w = .error (.invalidField "B" .kindNotText) := by
  intro v w
  have hv : ∃ c, Config.parse .plain v = .ok c := ⟨_, rfl⟩
  obtain ⟨c, hc⟩ := hv
  refine ⟨⟨c, hc, config_loading.2.2.2 .plain v c hc⟩, ?_⟩
  let d : Dict Value := Dict.ofList [("A", .object [("type", .string "fixed")]),
    ("B", .object [("type", .nat 5)]), ("C", .object [])]
  have hd : IsConfig d w := by
    have hcompany : w.field? ["company", "version", "field_mappings"] "company" = none := rfl
    exact ⟨by simp [w, Value.IsRecord], by simp [hcompany], _, rfl, rfl⟩
  refine (config_loading.2.2.1 .plain w d _ hd).2 ⟨"B", _, rfl, rfl, fun field x hlt hx => ?_⟩
  have hmem : (field, x) ∈ d.entries := Dict.find?_eq_some_iff.1 hx
  rcases List.mem_cons.1 hmem with hA | hmem
  · obtain ⟨rfl, rfl⟩ := Prod.mk.inj hA
    exact ⟨_, rfl⟩
  · -- The keys that follow are not below "B".
    have hkeys : ∀ e ∈ d.entries.tail, ¬ e.1 < "B" := by decide
    exact absurd hlt (hkeys _ hmem)

end PolicyFields.Mapping
