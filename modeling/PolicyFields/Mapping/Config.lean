import PolicyFields.Json.Source
import PolicyFields.Json.Writer
import PolicyFields.Mapping.Strategy

/-!
# Mapping configurations

`Strategy.parse` reads the strategy of one field and checks it; `Config.parse` reads those of a
company. Everything that can be wrong with a rule is found here, so that mapping itself never asks a
match for a group that the pattern lacks.
-/

namespace PolicyFields.Mapping

open Json (Source Value Shape Field readText readNat readBool readList readDict readOption readNumber
  present)

/-! ## Shapes -/

section Shapes

variable {σ : Type} [Source σ]

/-- The members of a fixed value. -/
def fixedShape : Shape σ (Option Value) :=
  ⟨"RawFixedValue", [.mandatory "output" Source.value fun v _ => some v]⟩

/-- A fixed value. -/
def readFixed (s : σ) : Except Json.Error Value := do
  present "output" (← fixedShape.read none s)

/-- The members of a substring rule. -/
def substringRuleShape : Shape σ (Option String × Option Value) :=
  ⟨"RawPatternRule", [.optional "input_pattern" (readOption readText) fun p r => (p, r.2),
    .mandatory "output" Source.value fun v r => (r.1, some v)]⟩

/-- A substring rule. -/
def readSubstringRule (s : σ) : Except Json.Error SubstringRule := do
  let (pattern, output) ← substringRuleShape.read (none, none) s
  return ⟨pattern, ← present "output" output⟩

/-- The members of substring rules. -/
def substringShape : Shape σ SubstringRules :=
  ⟨"RawPatternToValue", [
    .optional "mappings" (readList readSubstringRule) fun rs r => { r with rules := rs },
    .optional "default" Source.value fun v r => { r with default := some v }]⟩

/-- A pattern and a group, not yet checked (`RawExtractPattern`). -/
structure PickerParts where
  pattern : Option String
  group : Nat

/-- The members of a picker. -/
def pickerShape : Shape σ PickerParts :=
  ⟨"RawExtractPattern", [
    .mandatory "pattern" readText fun p r => { r with pattern := some p },
    .optional "group" readNat fun g r => { r with group := g }]⟩

/-- A pattern and a group. -/
def readPicker (s : σ) : Except Json.Error (String × Nat) := do
  let r ← pickerShape.read ⟨none, 0⟩ s
  return (← present "pattern" r.pattern, r.group)

/-- The members of an exact rule. -/
def exactRuleShape : Shape σ (Option Value × Option Value) :=
  ⟨"RawExactRule", [.mandatory "input" Source.value fun v r => (some v, r.2),
    .mandatory "output" Source.value fun v r => (r.1, some v)]⟩

/-- A text and the value that it stands for. -/
def readExactRule (s : σ) : Except Json.Error (String × Value) := do
  let (input, output) ← exactRuleShape.read (none, none) s
  return ((← present "input" input).plain, ← present "output" output)

/-- Pick rules, not yet checked (`RawExtractNormalize`). -/
structure PickParts where
  pickers : List (String × Nat)
  outputs : List (String × Value)
  default : Option Value

/-- The members of pick rules. -/
def pickShape : Shape σ PickParts :=
  ⟨"RawExtractNormalize", [
    .optional "extract_patterns" (readList readPicker) fun ps r => { r with pickers := ps },
    .optional "mappings" (readList readExactRule) fun os r => { r with outputs := os },
    .optional "default" Source.value fun v r => { r with default := some v }]⟩

/-- An amount rule, not yet checked (`RawAmountRule`). -/
structure AmountRuleParts where
  pattern : Option String
  output : Option Value
  transform : Option String

/-- The members of an amount rule. -/
def amountRuleShape : Shape σ AmountRuleParts :=
  ⟨"RawAmountRule", [
    .mandatory "pattern" readText fun p r => { r with pattern := some p },
    .optional "output" Source.value fun v r => { r with output := some v },
    .optional "transform" (readOption readText) fun t r => { r with transform := t }]⟩

/-- A pattern with what it is to give. -/
def readAmountRule (s : σ) : Except Json.Error (String × Option Value × Option String) := do
  let r ← amountRuleShape.read ⟨none, none, none⟩ s
  return (← present "pattern" r.pattern, r.output, r.transform)

/-- Amount rules, not yet checked (`RawAmountNormalization`). -/
structure AmountParts where
  rules : List (String × Option Value × Option String)
  default : Option Value

/-- The members of amount rules. -/
def amountShape : Shape σ AmountParts :=
  ⟨"RawAmountNormalization", [
    .optional "mappings" (readList readAmountRule) fun rs r => { r with rules := rs },
    .optional "default" Source.value fun v r => { r with default := some v }]⟩

/-- A numeric rule, not yet checked (`RawNumericRule`). -/
structure NumericRuleParts where
  pattern : Value
  output : Value
  multiplier : Option Json.Number

/-- The members of a numeric rule. -/
def numericRuleShape : Shape σ NumericRuleParts :=
  ⟨"RawNumericRule", [
    .optional "input_pattern" Source.value fun v r => { r with pattern := v },
    .optional "output" Source.value fun v r => { r with output := v },
    .optional "multiplier" (readOption readNumber) fun n r => { r with multiplier := n }]⟩

/-- A numeric rule. -/
def readNumericRule (s : σ) : Except Json.Error NumericRuleParts :=
  numericRuleShape.read ⟨.null, .null, none⟩ s

/-- The kind of number that a word names. -/
def numericTypeOf (name : String) : Except Json.Error NumericType :=
  if name = "integer" then .ok .integer
  else if name = "float" then .ok .float
  else .error (.mismatch (.unknownVariant name ["integer", "float"]))

/-- Nothing but `null`. -/
def readUnit (s : σ) : Except Json.Error Unit := do
  match ← Source.view s with
  | .null => pure ()
  | v => throw (Json.wrongType v "unit")

/-- A kind of number, as a word or as an object with the word as its only key. -/
def readNumericType (s : σ) : Except Json.Error NumericType := do
  match ← Source.view s with
  | .string name => numericTypeOf name
  | .object o => match o.members with
    | [(key, payload)] =>
      let kind ← numericTypeOf (← key)
      readUnit payload
      pure kind
    | _ => throw (.mismatch (.wrongValue .map "map with a single key"))
  | v => throw (Json.wrongType v "string or map")

/-- Numeric rules, not yet checked (`RawNumericConversion`). -/
structure NumericParts where
  rules : List NumericRuleParts
  kind : NumericType
  turkish : Option Bool
  default : Option Value

/-- The members of numeric rules. -/
def numericShape : Shape σ NumericParts :=
  ⟨"RawNumericConversion", [
    .optional "mappings" (readList readNumericRule) fun rs r => { r with rules := rs },
    .optional "output_type" readNumericType fun k r => { r with kind := k },
    .optional "turkish_format" (readOption readBool) fun b r => { r with turkish := b },
    .optional "default" Source.value fun v r => { r with default := some v }]⟩

end Shapes

/-! ## Checks -/

/-- A shape that is wrong, as an error of a field (`shape`). -/
def shaped {α : Type} (field : String) (r : Except Json.Error α) : Except ConfigError α :=
  r.mapError fun e => .invalidField field (.shape e)

/-- A pattern of a field, compiled (`compile`). -/
def compile (field : String) (o : Regex.Options) (pattern : String) :
    Except ConfigError NamedMachine :=
  match o.compile pattern with
  | .ok m => .ok ⟨pattern, m⟩
  | .error e => .error (.invalidPattern field e)

/-- A picker; its pattern must have the group. -/
def checkPicker (field : String) (o : Regex.Options) (p : String × Nat) :
    Except ConfigError Picker := do
  let m ← compile field o p.1
  if m.machine.groupCount ≤ p.2 then throw (.invalidField field (.groupMissing p.1 p.2))
  else pure ⟨m, p.2⟩

/-- Pick rules (`build`); there must be a default. -/
def checkPick (field : String) (o : Regex.Options) (parts : PickParts) :
    Except ConfigError PickRules := do
  match parts.default with
  | none => throw (.invalidField field .defaultMissing)
  | some default =>
    let pickers ← parts.pickers.mapM (checkPicker field { o with caseInsensitive := true })
    return ⟨pickers, parts.outputs, default⟩

/-- The respelling that a word names. -/
def respellingOf? (name : String) : Option Respelling :=
  if name = "format_turkish_amount" then some .whole
  else if name = "format_simple_amount" then some .simple
  else none

/-- What an amount rule gives; a configured output counts before a transform. -/
def amountAction (field pattern : String) :
    Option Value → Option String → Except ConfigError AmountAction
  | some output, _ => .ok (.literal output)
  | none, some name => match respellingOf? name with
    | some r => .ok (.transform r)
    | none => .error (.invalidField field (.unknownTransform name))
  | none, none => .error (.invalidField field (.outcomeMissing pattern))

/-- An amount rule (`build`); what is respelled must be captured. -/
def checkAmountRule (field : String) (o : Regex.Options)
    (rule : String × Option Value × Option String) : Except ConfigError AmountRule := do
  let m ← compile field o rule.1
  let action ← amountAction field rule.1 rule.2.1 rule.2.2
  match action with
  | .transform _ =>
    if m.machine.groupCount < 2 then throw (.invalidField field (.captureMissing rule.1))
    else pure ⟨m, action⟩
  | .literal _ => pure ⟨m, action⟩

/-- A number as a decimal (`number_to_decimal`). -/
def decimalOf? : Json.Number → Option Number.Decimal
  | .int n => some (.ofInt n)
  | .float x => Number.Decimal.ofFloat? x

/-- The factor of a numeric rule, one if nothing is configured. -/
def multiplierOf (field : String) : Option Json.Number → Except ConfigError Number.Decimal
  | none => .ok .one
  | some n => match decimalOf? n with
    | some d => .ok d
    | none => .error (.invalidField field (.unusableMultiplier n))

/-- A numeric rule (`build`); its factor must be usable. -/
def checkNumericRule (field : String) (r : NumericRuleParts) : Except ConfigError NumericRule := do
  return ⟨r.pattern.plain, r.output, ← multiplierOf field r.multiplier⟩

/-- The strategy of a known kind, none for other kinds. -/
def parseKind? (field : String) (o : Regex.Options) (v : Value) (kind : String) :
    Option (Except ConfigError Strategy) :=
  if kind = "fixed_value" then some do
    return .fixed (← shaped field (readFixed v))
  else if kind = "pattern_to_value" then some do
    return .substring (← shaped field (substringShape.read ⟨[], none⟩ v))
  else if kind = "extract_normalize" then some do
    return .pick (← checkPick field o (← shaped field (pickShape.read ⟨[], [], none⟩ v)))
  else if kind = "amount_normalization" then some do
    let parts ← shaped field (amountShape.read ⟨[], none⟩ v)
    return .amount ⟨← parts.rules.mapM (checkAmountRule field o), parts.default⟩
  else if kind = "numeric_conversion" then some do
    let parts ← shaped field (numericShape.read ⟨[], .integer, none, none⟩ v)
    return .numeric
      ⟨← parts.rules.mapM (checkNumericRule field), parts.kind, parts.turkish, parts.default⟩
  else none

/-- The strategy of a field (`parse`). -/
def Strategy.parse (field : String) (o : Regex.Options) (v : Value) : Except ConfigError Strategy :=
  match v.member? "type" with
  | none => .error (.invalidField field .kindMissing)
  | some (.string kind) => (parseKind? field o v kind).getD (.ok (.unrecognized kind))
  | some _ => .error (.invalidField field .kindNotText)

/-! ## Configurations -/

/-- The strategies of a company (`MappingConfig`). -/
structure Config where
  company : String
  version : String
  fields : Dict Strategy

/-- A configuration, not yet checked (`RawMappingFile`). -/
structure ConfigParts where
  company : Option String
  version : Option Value
  fields : Option (Dict Value)

section Reading

variable {σ : Type} [Source σ]

/-- The members of a configuration. -/
def configShape : Shape σ ConfigParts :=
  ⟨"RawMappingFile", [
    .optional "company" (readOption readText) fun c r => { r with company := c },
    .optional "version" (readOption Source.value) fun v r => { r with version := v },
    .mandatory "field_mappings" (readDict Source.value) fun d r => { r with fields := some d }]⟩

/-- The members of a configuration; the strategies must be there. -/
def readConfig (s : σ) : Except Json.Error (ConfigParts × Dict Value) := do
  let r ← configShape.read ⟨none, none, none⟩ s
  return (r, ← present "field_mappings" r.fields)

end Reading

/-- The strategies of entries in key order; the first that is wrong is reported. -/
def parseFields (o : Regex.Options) (entries : List (String × Value)) :
    Except ConfigError (List (String × Strategy)) :=
  entries.mapM fun e => do
    return (e.1, ← Strategy.parse e.1 o e.2)

/-- A configuration whose members have been read (`from_raw`). -/
def Config.check (o : Regex.Options) (parts : ConfigParts × Dict Value) :
    Except ConfigError Config := do
  let fields ← parseFields o parts.2.entries
  return ⟨parts.1.company.getD "unknown", (parts.1.version.map Value.plain).getD "1.0",
    Dict.ofList fields⟩

/-- The configuration that a value holds (`from_value`). -/
def Config.parse (o : Regex.Options) (v : Value) : Except ConfigError Config := do
  Config.check o (← shaped "field_mappings" (readConfig v))

end PolicyFields.Mapping
