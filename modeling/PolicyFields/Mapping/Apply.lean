import PolicyFields.Json.Writer
import PolicyFields.Mapping.Strategy
import PolicyFields.Mapping.Truth
import PolicyFields.Number.FloatReader

/-!
# Mapping one value

`Strategy.apply` normalizes a value by a strategy. Only conversions to numbers can fail, and only
because a number is out of range.
-/

namespace PolicyFields.Mapping

open Json (Value)

/-- The configured default, else the value itself (`default_or`). -/
def defaultOr (default : Option Value) (v : Value) : Value := default.getD v

/-! ## Substrings -/

namespace SubstringRules

/-- The output of the first rule for the missing value, else the default. -/
def applyNull (cfg : SubstringRules) : Value :=
  match cfg.rules.find? SubstringRule.matchesNull with
  | some r => r.output
  | none => cfg.default.getD .null

/-- The output of the first rule whose pattern occurs in the text of a value, else the default. -/
def applyText (cfg : SubstringRules) (v : Value) : Value :=
  match cfg.rules.find? fun r => r.matchesText v.plain with
  | some r => r.output
  | none => defaultOr cfg.default v

mutual

/-- A value mapped by what occurs in its text (`map_pattern_to_value`); of a list the first item
counts that is mapped to something else than the list would be without rules. -/
def apply (cfg : SubstringRules) : Value → Value
  | .null => cfg.applyNull
  | .array items =>
    if items.isEmpty then defaultOr cfg.default (.array items)
    else applyItems cfg (defaultOr cfg.default (.array items)) items
  | .bool b => if b then cfg.applyText (.bool b) else defaultOr cfg.default (.bool b)
  | .number n => if n.isZero then defaultOr cfg.default (.number n) else cfg.applyText (.number n)
  | .string s => if s.isEmpty then defaultOr cfg.default (.string s) else cfg.applyText (.string s)
  | .object ms =>
    if ms.isEmpty then defaultOr cfg.default (.object ms) else cfg.applyText (.object ms)

/-- The first item that is mapped to something else than the fallback, else the fallback. -/
def applyItems (cfg : SubstringRules) (fallback : Value) : List Value → Value
  | [] => fallback
  | v :: r =>
    let mapped := apply cfg v
    if mapped.same fallback then applyItems cfg fallback r else mapped

end

end SubstringRules

/-! ## Picking -/

namespace PickRules

/-- What the pickers find in a text. -/
def pickFrom (cfg : PickRules) (text : String) : List String :=
  let cs := text.toList
  cfg.pickers.filterMap fun p => (p.source.machine.first? cs).bind fun m =>
    Regex.Machine.groupText? m cs p.group

/-- Numbers picked from texts stay below this bound: they have 128 bits. -/
def wideBound : Nat := 0x100000000000000000000000000000000

/-- The number that a text of digits writes, if it has 128 bits. -/
def digitsNumber? (s : String) : Option Nat :=
  let cs := s.toList
  if Amount.isDigits cs then
    let n := Number.digitsValue cs
    if n < wideBound then some n else none
  else none

/-- The text picked from a list (`pick_from_items`): the largest number of those found, else the
first of them. -/
def pick? (cfg : PickRules) (items : List Value) : Option String :=
  let found := items.flatMap fun v => cfg.pickFrom v.plain
  match (found.filterMap digitsNumber?).max? with
  | some n => some (String.ofList (Number.natText n))
  | none => found.head?

/-- The output for an exact text, else the default. -/
def lookup (cfg : PickRules) (text : String) : Value :=
  (cfg.outputs.lookup text).getD cfg.default

/-- A value mapped by its text, that of a list being picked first (`map_extract_normalize`). -/
def apply (cfg : PickRules) (v : Value) : Value :=
  if v.isFalsy then cfg.default
  else match v with
    | .array items => match cfg.pick? items with
      | some text => if text.isEmpty then cfg.default else cfg.lookup text
      | none => cfg.default
    | v => cfg.lookup v.plain

end PickRules

/-! ## Amounts -/

namespace AmountRules

/-- The outcome of a rule in a text, if its pattern matches. -/
def AmountRule.outcome? (r : AmountRule) (text : List Char) : Option Value :=
  (r.source.machine.first? text).map fun m =>
    match r.action with
    | .literal output => output
    | .transform respelling =>
      .string (respelling.apply ((Regex.Machine.groupText? m text 1).getD ""))

/-- The outcome of the first rule whose pattern matches the text of a value (`amount_rule_hit`). -/
def hit? (cfg : AmountRules) (v : Value) : Option Value :=
  let text := v.plain.toList
  cfg.rules.findSome? fun r => AmountRule.outcome? r text

/-- A value mapped by the first rule that matches it or, of a list, its first item that any rule
matches (`map_amount`). -/
def apply (cfg : AmountRules) (v : Value) : Value :=
  if v.isFalsy then cfg.default.getD (.string "")
  else
    let hit := match v with
      | .array items => items.findSome? cfg.hit?
      | v => cfg.hit? v
    hit.getD (defaultOr cfg.default (.string v.plain))

end AmountRules

/-! ## Numbers -/

/-- Whole numbers of 64 bits. -/
def fitsInt64 (n : Int) : Bool := -0x8000000000000000 ≤ n && n < 0x8000000000000000

theorem fitsInt64_iff {n : Int} :
    fitsInt64 n = true ↔ -0x8000000000000000 ≤ n ∧ n < 0x8000000000000000 := by
  rw [fitsInt64, Bool.and_eq_true, decide_eq_true_eq, decide_eq_true_eq]

/-- The whole number of 64 bits that a text writes. -/
def readInt64? (s : String) : Option Int :=
  let (negative, ds) := Number.readSign s.toList
  if Amount.isDigits ds then
    let n : Int := Number.digitsValue ds
    let n := if negative then -n else n
    if fitsInt64 n then some n else none
  else none

/-- A decimal as a number (`decimal_to_value`); a whole number is cut off at the point and must have
64 bits. -/
def decimalValue (kind : NumericType) (d : Number.Decimal) : Except MappingError Value :=
  match kind with
  | .integer =>
    if fitsInt64 d.toInt then .ok (.int d.toInt) else .error (.overflow d.text)
  | .float =>
    if Number.isFinite d.toFloat then .ok (.float d.toFloat) else .error (.overflow d.text)

/-- A finite float as a number (`float_to_value`); a whole number is cut off at the point and must
have 64 bits. -/
def floatValue (kind : NumericType) (x : Float) : Except MappingError Value :=
  match kind with
  | .integer =>
    if fitsInt64 (Number.truncate x) then .ok (.int (Number.truncate x))
    else .error (.overflow (Number.plainText x))
  | .float => .ok (.float x)

/-- A configured output as a number, if it is a text that writes one (`coerce_output`). -/
def coerce (kind : NumericType) (output : Value) : Value :=
  match output with
  | .string s =>
    let trimmed := Text.trim s
    match kind with
    | .integer => ((readInt64? trimmed).map Value.int).getD output
    | .float => (((Number.readFloat? trimmed).filter Number.isFinite).map Value.float).getD output
  | output => output

namespace NumericRules

/-- The rule whose pattern is a text, blanks around both not regarded. -/
def rule? (cfg : NumericRules) (text : String) : Option NumericRule :=
  cfg.rules.find? fun r => Text.trim r.pattern == Text.trim text

/-- The product of a rule's own amount and its factor. -/
def scaled (cfg : NumericRules) (r : NumericRule) (d : Number.Decimal) :
    Except MappingError Value :=
  let d := match cfg.kind with
    | .integer => d.truncate
    | .float => d
  match d.mul? r.multiplier with
  | some product => decimalValue cfg.kind product
  | none => .error (.overflow r.pattern)

/-- The outcome of a rule: its output if that is a number; else, with the Turkish convention, its
own amount times its factor; else its output, as a number where it writes one. -/
def ruleOutcome (cfg : NumericRules) (r : NumericRule) : Except MappingError Value :=
  match r.output with
  | .number n => .ok (.number n)
  | output =>
    match (if cfg.turkish = some true then Amount.parse? .turkish r.pattern else none) with
    | some d => cfg.scaled r d
    | none => .ok (coerce cfg.kind output)

/-- The number that a text writes, as an amount or else as a float. -/
def readNumber (cfg : NumericRules) (text : String) : Except MappingError (Option Value) :=
  let trimmed := Text.trim text
  match Amount.parse? (.ofFlag cfg.turkish) trimmed with
  | some d => (decimalValue cfg.kind d).map some
  | none => match Number.readFloat? trimmed with
    | some x => if Number.isFinite x then (floatValue cfg.kind x).map some else .ok none
    | none => .ok none

/-- A value converted, if it can be (`convert_numeric`). -/
def convert (cfg : NumericRules) (v : Value) : Except MappingError (Option Value) :=
  if v.isFalsy then .ok none
  else match cfg.rule? v.plain with
    | some r => (cfg.ruleOutcome r).map some
    | none => cfg.readNumber v.plain

/-- The conversion of an item of a list, where it succeeds with something. -/
def convertItem? (cfg : NumericRules) (v : Value) : Option Value :=
  match cfg.convert v with
  | .ok (some out) => if out.isNull then none else some out
  | _ => none

/-- A value converted, or the default (`map_numeric`); of a list the first item counts that can be
converted. -/
def apply (cfg : NumericRules) (v : Value) : Except MappingError Value :=
  let fallback := cfg.default.getD .null
  if v.isFalsy then .ok fallback
  else match v with
    | .array items => .ok ((items.findSome? cfg.convertItem?).getD fallback)
    | v => (cfg.convert v).map fun out => out.getD fallback

end NumericRules

/-! ## Strategies -/

/-- A value normalized by a strategy (`map_field`). -/
def Strategy.apply (s : Strategy) (v : Value) : Except MappingError Value :=
  match s with
  | fixed output => .ok output
  | substring rules => .ok (rules.apply v)
  | pick rules => .ok (rules.apply v)
  | amount rules => .ok (rules.apply v)
  | numeric rules => rules.apply v
  | unrecognized _ => .ok v

end PolicyFields.Mapping
