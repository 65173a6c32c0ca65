import PolicyFields.Mapping.Config
import PolicyFields.Proofs.Json.Record

/-!
# Which mapping configurations load

* `IsFixed`, `IsSubstring`, `IsPick`, `IsAmount`, `IsNumeric` — the payloads of the known kinds,
  said without their readers and checks.
* `exists_strategyParse_iff` — **a strategy loads iff it names its kind and its payload is right**.
-/

namespace PolicyFields.Mapping

open Json (Value Error Field Shape present exists_fill_cons_iff exists_fill_nil_iff exists_reads_iff
  exists_reads_and_iff exists_reads_readList_iff exists_reads_optionText_iff exists_readList_iff
  exists_readOption_iff reads_someText_iff reads_optionText_iff reads_nat_iff reads_value_iff
  reads_someValue_iff)
open Traversal (bind_eq_ok_iff exists_mapM_iff)
open Regex (Options)

variable {v : Value} {o : Options} {field : String}

/-! ## What the payloads are -/

/-- A fixed value. -/
def IsFixed : Value → Prop := Value.Record ["output"] fun get => (get "output").isSome

/-- A substring rule: its pattern may be absent or `null`, its output may not be absent. -/
def IsSubstringRule : Value → Prop := Value.Record ["input_pattern", "output"] fun get =>
  (∀ x, get "input_pattern" = some x → x.IsNullOr Value.IsText) ∧ (get "output").isSome

/-- Substring rules. -/
def IsSubstring : Value → Prop := Value.Record ["mappings", "default"] fun get =>
  ∀ x, get "mappings" = some x → x.IsListOf IsSubstringRule

/-- A pattern that compiles, with one of its groups. -/
def IsPicker (o : Options) : Value → Prop := Value.Record ["pattern", "group"] fun get =>
  ∃ pattern group machine, get "pattern" = some (.string pattern) ∧
    (get "group").getD (.nat 0) = .nat group ∧
    o.compile pattern = .ok machine ∧ group < machine.groupCount

/-- An exact rule. -/
def IsExactRule : Value → Prop := Value.Record ["input", "output"] fun get =>
  (get "input").isSome ∧ (get "output").isSome

/-- Pick rules: the default may be `null`, but not absent. -/
def IsPick (o : Options) : Value → Prop :=
  Value.Record ["extract_patterns", "mappings", "default"] fun get =>
    (∀ x, get "extract_patterns" = some x → x.IsListOf (IsPicker o)) ∧
    (∀ x, get "mappings" = some x → x.IsListOf IsExactRule) ∧ (get "default").isSome

/-- The transforms that are known. -/
def transforms : List String := ["format_turkish_amount", "format_simple_amount"]

/-- An amount rule: its pattern compiles, and it has an output, which may be `null`, or else a known
transform and a group to apply it to. -/
def IsAmountRule (o : Options) : Value → Prop :=
  Value.Record ["pattern", "output", "transform"] fun get =>
    ∃ pattern machine, get "pattern" = some (.string pattern) ∧ o.compile pattern = .ok machine ∧
      (∀ x, get "transform" = some x → x.IsNullOr Value.IsText) ∧
      ((get "output").isSome ∨ 1 < machine.groupCount ∧
        ∃ name ∈ transforms, get "transform" = some (.string name))

/-- Amount rules. -/
def IsAmount (o : Options) : Value → Prop := Value.Record ["mappings", "default"] fun get =>
  ∀ x, get "mappings" = some x → x.IsListOf (IsAmountRule o)

/-- A number that a decimal can hold. -/
def IsFactor (v : Value) : Prop := ∃ n d, v = .number n ∧ decimalOf? n = some d

/-- A numeric rule: its multiplier, if it has one, is usable. -/
def IsNumericRule : Value → Prop :=
  Value.Record ["input_pattern", "output", "multiplier"] fun get =>
    ∀ x, get "multiplier" = some x → x.IsNullOr IsFactor

/-- A kind of number, as a word or as an object with the word as its only key. -/
def IsNumericType (v : Value) : Prop :=
  ∃ name ∈ ["integer", "float"], v = .string name ∨ v = .object [(name, .null)]

/-- Numeric rules. -/
def IsNumeric : Value → Prop :=
  Value.Record ["mappings", "output_type", "turkish_format", "default"] fun get =>
    (∀ x, get "mappings" = some x → x.IsListOf IsNumericRule) ∧
    (∀ x, get "output_type" = some x → IsNumericType x) ∧
    ∀ x, get "turkish_format" = some x → x.IsNullOr fun y => ∃ b, y = .bool b

/-- The payload of a kind; of kinds that are not known nothing is asked. Patterns that pick do not
regard case. -/
@[mk_iff] structure IsPayload (o : Options) (kind : String) (v : Value) : Prop where
  fixed : kind = "fixed_value" → IsFixed v
  substring : kind = "pattern_to_value" → IsSubstring v
  pick : kind = "extract_normalize" → IsPick { o with caseInsensitive := true } v
  amount : kind = "amount_normalization" → IsAmount o v
  numeric : kind = "numeric_conversion" → IsNumeric v

/-- A strategy: an object that names its kind, with the payload of that kind. -/
def IsStrategy (o : Options) (v : Value) : Prop :=
  ∃ kind, v.member? "type" = some (.string kind) ∧ IsPayload o kind v

/-! ## Fixed values and substrings -/

theorem present_eq_ok_iff {α : Type} {name : String} {a : Option α} {b : α} :
    present name a = .ok b ↔ a = some b := by
  cases a <;> simp [present]

theorem fixedShape_regular : (fixedShape : Shape Value (Option Value)).Regular where
  names := by decide
  commutes := by simp [fixedShape]

theorem exists_readFixed_iff : (∃ x, readFixed v = .ok x) ↔ IsFixed v := by
  simp only [readFixed, bind_eq_ok_iff, present_eq_ok_iff]
  rw [exists_comm]
  simp only [exists_and_left]
  refine Shape.exists_read_iff fixedShape_regular (fun get => ?_) fun get h => ?_
  · refine (exists_fill_cons_iff ((Field.sets_mandatory _ _ _).ofSome fun a _ => a) none rfl
      fun a => exists_fill_nil_iff).trans ?_
    simp [reads_someValue_iff, Option.isSome_iff_exists]
  · simpa [fixedShape] using h

theorem substringRuleShape_regular :
    (substringRuleShape : Shape Value (Option String × Option Value)).Regular where
  names := by decide
  commutes := by simp [substringRuleShape]

theorem exists_readSubstringRule_iff : (∃ r, readSubstringRule v = .ok r) ↔ IsSubstringRule v := by
  have hread : (∃ r, readSubstringRule v = .ok r) ↔
      ∃ r, substringRuleShape.read (none, none) v = .ok r ∧ r.2.isSome := by
    simp only [readSubstringRule, bind_eq_ok_iff, present_eq_ok_iff, Json.pure_eq_ok,
      Option.isSome_iff_exists]
    constructor
    · rintro ⟨-, r, hr, x, hx, -⟩
      exact ⟨r, hr, x, hx⟩
    · rintro ⟨r, hr, x, hx⟩
      exact ⟨_, r, hr, x, hx, rfl⟩
  rw [hread]
  refine Shape.exists_read_iff substringRuleShape_regular (fun get => ?_) fun get h => ?_
  · refine (exists_fill_cons_iff (Field.sets_optional _ _ _) none rfl fun p =>
      exists_fill_cons_iff ((Field.sets_mandatory _ _ _).ofSome fun a r => (r.1, a)) none rfl
        fun a => exists_fill_nil_iff).trans ?_
    simp only [exists_and_right, reads_someValue_iff, exists_eq_left']
    exact and_congr_left fun _ => exists_reads_optionText_iff
  · simpa [substringRuleShape] using h.2

theorem substringShape_regular : (substringShape : Shape Value SubstringRules).Regular where
  names := by decide
  commutes := by simp [substringShape]

theorem exists_readSubstring_iff :
    (∃ r, substringShape.read ⟨[], none⟩ v = .ok r) ↔ IsSubstring v := by
  suffices (∃ r, substringShape.read ⟨[], none⟩ v = .ok r ∧ True) ↔ IsSubstring v by simpa
  refine Shape.exists_read_iff substringShape_regular (fun get => ?_) fun get h => ?_
  · refine (exists_fill_cons_iff (Field.sets_optional _ _ _) [] rfl fun rs =>
      exists_fill_cons_iff ((Field.sets_optional _ _ _).ofSome fun a (r : SubstringRules) =>
        { r with default := a }) none rfl fun a => exists_fill_nil_iff).trans ?_
    simp only [reads_someValue_iff, and_true, exists_eq']
    exact exists_reads_iff fun _ =>
      exists_readList_iff fun _ => exists_readSubstringRule_iff
  · simp [substringShape]

/-! ## Picking -/

theorem exactRuleShape_regular :
    (exactRuleShape : Shape Value (Option Value × Option Value)).Regular where
  names := by decide
  commutes := by simp [exactRuleShape]

theorem exists_readExactRule_iff : (∃ r, readExactRule v = .ok r) ↔ IsExactRule v := by
  have hread : (∃ r, readExactRule v = .ok r) ↔
      ∃ r, exactRuleShape.read (none, none) v = .ok r ∧ r.1.isSome ∧ r.2.isSome := by
    simp only [readExactRule, bind_eq_ok_iff, present_eq_ok_iff, Json.pure_eq_ok,
      Option.isSome_iff_exists]
    constructor
    · rintro ⟨-, r, hr, x, hx, y, hy, -⟩
      exact ⟨r, hr, ⟨x, hx⟩, y, hy⟩
    · rintro ⟨r, hr, ⟨x, hx⟩, y, hy⟩
      exact ⟨_, r, hr, x, hx, y, hy, rfl⟩
  rw [hread]
  refine Shape.exists_read_iff exactRuleShape_regular (fun get => ?_) fun get h => ?_
  · refine (exists_fill_cons_iff ((Field.sets_mandatory _ _ _).ofSome fun a r => (a, r.2)) none rfl
      fun a => exists_fill_cons_iff ((Field.sets_mandatory _ _ _).ofSome fun a r => (r.1, a)) none
        rfl fun a => exists_fill_nil_iff).trans ?_
    simp only [reads_someValue_iff, exists_eq_left']
    rfl
  · simpa [exactRuleShape] using h

theorem exists_readExactRules_iff :
    (∃ rs, Json.readList readExactRule v = .ok rs) ↔ v.IsListOf IsExactRule :=
  exists_readList_iff fun _ => exists_readExactRule_iff

theorem pickerShape_regular : (pickerShape : Shape Value PickerParts).Regular where
  names := by decide
  commutes := by simp [pickerShape]

theorem compile_eq_ok_iff {pattern : String} {m : NamedMachine} :
    compile field o pattern = .ok m ↔
      ∃ machine, o.compile pattern = .ok machine ∧ m = ⟨pattern, machine⟩ := by
  unfold compile
  cases o.compile pattern <;> simp [eq_comm]

theorem exists_checkPicker_iff {p : String × Nat} : (∃ q, checkPicker field o p = .ok q) ↔
    ∃ machine, o.compile p.1 = .ok machine ∧ p.2 < machine.groupCount := by
  simp only [checkPicker, bind_eq_ok_iff, compile_eq_ok_iff]
  constructor
  · rintro ⟨q, _, ⟨machine, hm, rfl⟩, hq⟩
    split at hq
    · cases hq
    · rename_i hgroup
      exact ⟨machine, hm, Nat.not_le.1 hgroup⟩
  · rintro ⟨machine, hm, hgroup⟩
    exact ⟨_, _, ⟨machine, hm, rfl⟩, if_neg (Nat.not_le.2 hgroup)⟩

theorem exists_picker_iff : (∃ p, readPicker v = .ok p ∧ ∃ q, checkPicker field o p = .ok q) ↔
    IsPicker o v := by
  have hread : (∃ p, readPicker v = .ok p ∧ ∃ q, checkPicker field o p = .ok q) ↔
      ∃ r, pickerShape.read ⟨none, 0⟩ v = .ok r ∧ ∃ pattern machine, r.pattern = some pattern ∧
        o.compile pattern = .ok machine ∧ r.group < machine.groupCount := by
    simp only [exists_checkPicker_iff, readPicker, bind_eq_ok_iff, present_eq_ok_iff,
      Json.pure_eq_ok, Except.ok.injEq]
    constructor
    · rintro ⟨_, ⟨r, hr, pattern, hpattern, rfl⟩, machine, hm, hgroup⟩
      exact ⟨r, hr, pattern, machine, hpattern, hm, hgroup⟩
    · rintro ⟨r, hr, pattern, machine, hpattern, hm, hgroup⟩
      exact ⟨_, ⟨r, hr, pattern, hpattern, rfl⟩, machine, hm, hgroup⟩
  rw [hread]
  refine Shape.exists_read_iff pickerShape_regular (fun get => ?_) fun get h => ?_
  · refine (exists_fill_cons_iff ((Field.sets_mandatory _ _ _).ofSome fun a (r : PickerParts) =>
      { r with pattern := a }) none rfl fun p => exists_fill_cons_iff (Field.sets_optional _ _ _) 0
        rfl fun g => exists_fill_nil_iff).trans ?_
    constructor
    · rintro ⟨_, hp, group, hg, pattern, machine, rfl, hm, hgroup⟩
      exact ⟨pattern, group, machine, reads_someText_iff.1 hp, reads_nat_iff.1 hg, hm, hgroup⟩
    · rintro ⟨pattern, group, machine, hp, hg, hm, hgroup⟩
      exact ⟨_, reads_someText_iff.2 hp, group, reads_nat_iff.2 hg, pattern, machine, rfl, hm,
        hgroup⟩
  · obtain ⟨pattern, -, -, hp, -⟩ := h
    simp [pickerShape, hp]

theorem pickShape_regular : (pickShape : Shape Value PickParts).Regular where
  names := by decide
  commutes := by simp [pickShape]

theorem exists_checkPick_iff {parts : PickParts} : (∃ rules, checkPick field o parts = .ok rules) ↔
    (∀ p ∈ parts.pickers, ∃ q, checkPicker field { o with caseInsensitive := true } p = .ok q) ∧
      parts.default.isSome := by
  unfold checkPick
  cases parts.default with
  | none => simp [throw, throwThe, MonadExceptOf.throw]
  | some default =>
    simp only [bind_eq_ok_iff, ← exists_mapM_iff, Option.isSome_some, and_true]
    constructor
    · rintro ⟨_, pickers, hp, -⟩
      exact ⟨pickers, hp⟩
    · rintro ⟨pickers, hp⟩
      exact ⟨_, pickers, hp, rfl⟩

theorem exists_pick_iff : (∃ parts, pickShape.read ⟨[], [], none⟩ v = .ok parts ∧
      ∃ rules, checkPick field o parts = .ok rules) ↔
    IsPick { o with caseInsensitive := true } v := by
  simp only [exists_checkPick_iff]
  refine Shape.exists_read_iff pickShape_regular (fun get => ?_) fun get h => ?_
  · refine (exists_fill_cons_iff (Field.sets_optional _ _ _) [] rfl fun ps =>
      exists_fill_cons_iff (Field.sets_optional _ _ _) [] rfl fun os =>
        exists_fill_cons_iff ((Field.sets_optional _ _ _).ofSome fun a (r : PickParts) =>
          { r with default := a }) none rfl fun a => exists_fill_nil_iff).trans ?_
    simp only [reads_someValue_iff, exists_eq_left']
    constructor
    · rintro ⟨ps, hps, os, hos, hchecks, hdefault⟩
      exact ⟨(exists_reads_readList_iff fun _ => exists_picker_iff).1 ⟨ps, hps, hchecks⟩,
        (exists_reads_iff fun _ => exists_readExactRules_iff).1 ⟨os, hos⟩, hdefault⟩
    · rintro ⟨hps, hos, hdefault⟩
      obtain ⟨ps, hps, hchecks⟩ := (exists_reads_readList_iff fun _ => exists_picker_iff).2 hps
      obtain ⟨os, hos⟩ := (exists_reads_iff fun _ => exists_readExactRules_iff).2 hos
      exact ⟨ps, hps, os, hos, hchecks, hdefault⟩
  · simp [pickShape]

/-! ## Amount rules -/

theorem amountRuleShape_regular : (amountRuleShape : Shape Value AmountRuleParts).Regular where
  names := by decide
  commutes := by simp [amountRuleShape]

theorem exists_respellingOf?_iff {name : String} :
    (∃ r, respellingOf? name = some r) ↔ name ∈ transforms := by
  unfold respellingOf? transforms
  split
  · simp [*]
  · split <;> simp [*]

theorem exists_checkAmountRule_iff {rule : String × Option Value × Option String} :
    (∃ r, checkAmountRule field o rule = .ok r) ↔ ∃ machine, o.compile rule.1 = .ok machine ∧
      (rule.2.1.isSome ∨
        1 < machine.groupCount ∧ ∃ name ∈ transforms, rule.2.2 = some name) := by
  obtain ⟨pattern, output, transform⟩ := rule
  simp only [checkAmountRule, bind_eq_ok_iff, compile_eq_ok_iff]
  constructor
  · rintro ⟨r, _, ⟨machine, hm, rfl⟩, action, haction, hr⟩
    refine ⟨machine, hm, ?_⟩
    cases output with
    | some x => exact .inl rfl
    | none =>
      cases transform with
      | none => cases haction
      | some name =>
        simp only [amountAction] at haction
        split at haction
        · rename_i respelling hname
          obtain rfl := Except.ok.inj haction
          dsimp only at hr
          split at hr
          · cases hr
          · exact .inr ⟨by omega, name, exists_respellingOf?_iff.1 ⟨_, hname⟩, rfl⟩
        · cases haction
  · rintro ⟨machine, hm, houtcome⟩
    cases output with
    | some x => exact ⟨_, _, ⟨machine, hm, rfl⟩, _, rfl, rfl⟩
    | none =>
      obtain houtput | ⟨hgroup, name, hname, rfl⟩ := houtcome
      · cases houtput
      · obtain ⟨respelling, hrespelling⟩ := exists_respellingOf?_iff.2 hname
        refine ⟨_, _, ⟨machine, hm, rfl⟩, .transform respelling, ?_, if_neg (Nat.not_lt.2 hgroup)⟩
        simp [amountAction, hrespelling]

theorem exists_amountRule_iff :
    (∃ rule, readAmountRule v = .ok rule ∧ ∃ r, checkAmountRule field o rule = .ok r) ↔
      IsAmountRule o v := by
  have hread : (∃ rule, readAmountRule v = .ok rule ∧ ∃ r, checkAmountRule field o rule = .ok r) ↔
      ∃ r, amountRuleShape.read ⟨none, none, none⟩ v = .ok r ∧ ∃ pattern machine,
        r.pattern = some pattern ∧ o.compile pattern = .ok machine ∧ (r.output.isSome ∨
          1 < machine.groupCount ∧ ∃ name ∈ transforms, r.transform = some name) := by
    simp only [exists_checkAmountRule_iff, readAmountRule, bind_eq_ok_iff, present_eq_ok_iff,
      Json.pure_eq_ok, Except.ok.injEq]
    constructor
    · rintro ⟨_, ⟨r, hr, pattern, hpattern, rfl⟩, machine, hm, houtcome⟩
      exact ⟨r, hr, pattern, machine, hpattern, hm, houtcome⟩
    · rintro ⟨r, hr, pattern, machine, hpattern, hm, houtcome⟩
      exact ⟨_, ⟨r, hr, pattern, hpattern, rfl⟩, machine, hm, houtcome⟩
  rw [hread]
  refine Shape.exists_read_iff amountRuleShape_regular (fun get => ?_) fun get h => ?_
  · refine (exists_fill_cons_iff ((Field.sets_mandatory _ _ _).ofSome fun a (r : AmountRuleParts) =>
      { r with pattern := a }) none rfl fun p =>
        exists_fill_cons_iff ((Field.sets_optional _ _ _).ofSome fun a (r : AmountRuleParts) =>
          { r with output := a }) none rfl fun x =>
            exists_fill_cons_iff (Field.sets_optional _ _ _) none rfl fun t =>
              exists_fill_nil_iff).trans ?_
    simp only [reads_someValue_iff, exists_eq_left']
    constructor
    · rintro ⟨_, hp, t, ht, pattern, machine, rfl, hm, houtcome⟩
      refine ⟨pattern, machine, reads_someText_iff.1 hp, hm, ?_, houtcome.imp_right ?_⟩
      · exact exists_reads_optionText_iff.1 ⟨t, ht⟩
      · rintro ⟨hgroup, name, hname, rfl⟩
        exact ⟨hgroup, name, hname, reads_optionText_iff.1 ht⟩
    · rintro ⟨pattern, machine, hp, hm, ht, houtcome⟩
      obtain ⟨t, ht⟩ := exists_reads_optionText_iff.2 ht
      refine ⟨_, reads_someText_iff.2 hp, t, ht, pattern, machine, rfl, hm,
        houtcome.imp_right ?_⟩
      rintro ⟨hgroup, name, hname, hget⟩
      exact ⟨hgroup, name, hname, ht.unique (reads_optionText_iff.2 hget)⟩
  · obtain ⟨pattern, -, hp, -⟩ := h
    simp [amountRuleShape, hp]

theorem amountShape_regular : (amountShape : Shape Value AmountParts).Regular where
  names := by decide
  commutes := by simp [amountShape]

theorem exists_amount_iff : (∃ parts, amountShape.read ⟨[], none⟩ v = .ok parts ∧
      ∀ rule ∈ parts.rules, ∃ r, checkAmountRule field o rule = .ok r) ↔ IsAmount o v := by
  refine Shape.exists_read_iff amountShape_regular (fun get => ?_) fun get h => ?_
  · refine (exists_fill_cons_iff (Field.sets_optional _ _ _) [] rfl fun rs =>
      exists_fill_cons_iff ((Field.sets_optional _ _ _).ofSome fun a (r : AmountParts) =>
        { r with default := a }) none rfl fun a => exists_fill_nil_iff).trans ?_
    simp only [reads_someValue_iff, exists_eq_left']
    exact exists_reads_readList_iff fun _ => exists_amountRule_iff
  · simp [amountShape]

/-! ## Numeric rules -/

theorem numericRuleShape_regular : (numericRuleShape : Shape Value NumericRuleParts).Regular where
  names := by decide
  commutes := by simp [numericRuleShape]

theorem exists_checkNumericRule_iff {r : NumericRuleParts} :
    (∃ q, checkNumericRule field r = .ok q) ↔
      ∀ n, r.multiplier = some n → ∃ d, decimalOf? n = some d := by
  simp only [checkNumericRule, bind_eq_ok_iff, Json.pure_eq_ok, Except.ok.injEq]
  rw [exists_comm]
  cases r.multiplier with
  | none => simp [multiplierOf]
  | some n => cases hd : decimalOf? n <;> simp [multiplierOf, hd]

theorem exists_numericRule_iff :
    (∃ r, readNumericRule v = .ok r ∧ ∃ q, checkNumericRule field r = .ok q) ↔
      IsNumericRule v := by
  simp only [exists_checkNumericRule_iff]
  refine Shape.exists_read_iff numericRuleShape_regular (fun get => ?_) fun get h => ?_
  · refine (exists_fill_cons_iff (Field.sets_optional _ _ _) .null rfl fun x =>
      exists_fill_cons_iff (Field.sets_optional _ _ _) .null rfl fun y =>
        exists_fill_cons_iff (Field.sets_optional _ _ _) none rfl fun n =>
          exists_fill_nil_iff).trans ?_
    simp only [reads_value_iff, exists_eq_left']
    refine exists_reads_and_iff (fun n hn => by cases hn) fun x => ?_
    simp only [Json.readOption_eq_ok_iff, Json.readNumber_eq_ok_iff, Value.IsNullOr, IsFactor]
    by_cases hx : x = .null <;> simp [hx]
  · simp [numericRuleShape]

theorem exists_numericTypeOf_iff {name : String} :
    (∃ k, numericTypeOf name = .ok k) ↔ name ∈ ["integer", "float"] := by
  unfold numericTypeOf
  split
  · simp [*]
  · split <;> simp [*]

theorem readUnit_eq_ok_iff {u : Unit} : readUnit v = .ok u ↔ v = .null := by
  rw [readUnit, Json.bind_view]
  cases v <;> simp [Value.view, Json.pure_eq_ok, Json.throw_eq_error]

theorem exists_readNumericType_iff : (∃ k, readNumericType v = .ok k) ↔ IsNumericType v := by
  rw [readNumericType, Json.bind_view]
  unfold IsNumericType
  simp only [← exists_numericTypeOf_iff]
  cases v with
  | string name => simp [Value.view]
  | object members =>
    simp only [Value.view]
    rcases members with _ | ⟨⟨key, payload⟩, _ | ⟨second, others⟩⟩
    · simp [Json.throw_eq_error]
    · simp [bind_eq_ok_iff, readUnit_eq_ok_iff, Json.pure_eq_ok]
    · simp [Json.throw_eq_error]
  | _ => simp [Value.view, Json.throw_eq_error]

theorem exists_readFlag_iff : (∃ b, Json.readOption Json.readBool v = .ok b) ↔
    v.IsNullOr fun x => ∃ b, x = .bool b :=
  exists_readOption_iff fun _ => exists_congr fun _ => Json.readBool_eq_ok_iff

theorem numericShape_regular : (numericShape : Shape Value NumericParts).Regular where
  names := by decide
  commutes := by simp [numericShape]

theorem exists_numeric_iff :
    (∃ parts, numericShape.read ⟨[], .integer, none, none⟩ v = .ok parts ∧
      ∀ rule ∈ parts.rules, ∃ r, checkNumericRule field rule = .ok r) ↔ IsNumeric v := by
  refine Shape.exists_read_iff numericShape_regular (fun get => ?_) fun get h => ?_
  · refine (exists_fill_cons_iff (Field.sets_optional _ _ _) [] rfl fun rs =>
      exists_fill_cons_iff (Field.sets_optional _ _ _) .integer rfl fun k =>
        exists_fill_cons_iff (Field.sets_optional _ _ _) none rfl fun b =>
          exists_fill_cons_iff ((Field.sets_optional _ _ _).ofSome fun a (r : NumericParts) =>
            { r with default := a }) none rfl fun a => exists_fill_nil_iff).trans ?_
    simp only [reads_someValue_iff, exists_eq_left']
    constructor
    · rintro ⟨rs, hrs, k, hk, b, hb, hchecks⟩
      exact ⟨(exists_reads_readList_iff fun _ => exists_numericRule_iff).1 ⟨rs, hrs, hchecks⟩,
        (exists_reads_iff fun _ => exists_readNumericType_iff).1 ⟨k, hk⟩,
        (exists_reads_iff fun _ => exists_readFlag_iff).1 ⟨b, hb⟩⟩
    · rintro ⟨hrs, hk, hb⟩
      obtain ⟨rs, hrs, hchecks⟩ :=
        (exists_reads_readList_iff fun _ => exists_numericRule_iff).2 hrs
      obtain ⟨k, hk⟩ := (exists_reads_iff fun _ => exists_readNumericType_iff).2 hk
      obtain ⟨b, hb⟩ := (exists_reads_iff fun _ => exists_readFlag_iff).2 hb
      exact ⟨rs, hrs, k, hk, b, hb, hchecks⟩
  · simp [numericShape]

/-! ## Strategies -/

theorem shaped_eq_ok_iff {α : Type} {r : Except Error α} {a : α} :
    shaped field r = .ok a ↔ r = .ok a := by
  cases r <;> simp [shaped, Except.mapError]

/-- The strategy of a kind loads iff its payload is right. -/
theorem exists_parseKind?_iff {kind : String} :
    (∃ s, (parseKind? field o v kind).getD (.ok (.unrecognized kind)) = .ok s) ↔
      IsPayload o kind v := by
  unfold parseKind?
  rw [isPayload_iff]
  split_ifs with hfixed hsubstring hpick hamount hnumeric
  · subst hfixed
    simpa [bind_eq_ok_iff, shaped_eq_ok_iff, Json.pure_eq_ok] using exists_readFixed_iff
  · subst hsubstring
    simpa [bind_eq_ok_iff, shaped_eq_ok_iff, Json.pure_eq_ok] using exists_readSubstring_iff
  · subst hpick
    simpa [bind_eq_ok_iff, shaped_eq_ok_iff, Json.pure_eq_ok] using exists_pick_iff
  · subst hamount
    simpa [bind_eq_ok_iff, shaped_eq_ok_iff, Json.pure_eq_ok, exists_mapM_iff] using
      exists_amount_iff
  · subst hnumeric
    simpa [bind_eq_ok_iff, shaped_eq_ok_iff, Json.pure_eq_ok, exists_mapM_iff] using
      exists_numeric_iff
  · simp [*]

/-- **A strategy loads iff it names its kind and its payload is right.** -/
theorem exists_strategyParse_iff :
    (∃ s, Strategy.parse field o v = .ok s) ↔ IsStrategy o v := by
  unfold Strategy.parse IsStrategy
  split
  · rename_i hkind
    simp [hkind]
  · rename_i kind hkind
    simp only [hkind, Option.some.injEq, Value.string.injEq, exists_eq_left', exists_parseKind?_iff]
  · rename_i x hnot hkind
    rw [hkind]
    simp only [reduceCtorEq, exists_false, Option.some.injEq, false_iff, not_exists, not_and]
    rintro kind rfl
    exact absurd rfl (hnot kind)

end PolicyFields.Mapping
