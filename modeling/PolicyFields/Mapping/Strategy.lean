import PolicyFields.Amount
import PolicyFields.Failure
import PolicyFields.Text.Containment

/-!
# Mapping strategies

* `Strategy` — how the values of one field are normalized.
* `FieldRules` — the parts of the strategies: `SubstringRules`, `PickRules`, `AmountRules`,
  `NumericRules`.
-/

namespace PolicyFields.Mapping

open Json (Value)
open Regex (Machine)

/-- A pattern and its machine. -/
structure NamedMachine where
  pattern : String
  machine : Machine

/-! ## Substrings -/

/-- A value for texts in which a pattern occurs (`PatternRule`). -/
structure SubstringRule where
  /-- None stands for the missing value. -/
  pattern : Option String
  output : Value

namespace SubstringRule

/-- Whether the rule is for the missing value (`matches_null`). -/
def matchesNull (r : SubstringRule) : Bool :=
  match r.pattern with
  | none => true
  | some p => p == "null"

/-- Whether the pattern occurs in a text, case and blanks not regarded (`SubstringMatcher`); an
empty pattern never does. -/
def matchesText (r : SubstringRule) (s : String) : Bool :=
  match r.pattern with
  | none => false
  | some p => !p.isEmpty && Text.occursLoosely p s

end SubstringRule

/-- Rules for texts by what occurs in them (`PatternToValue`). -/
structure SubstringRules where
  rules : List SubstringRule
  /-- None if nothing is configured. -/
  default : Option Value

/-! ## Picking -/

/-- A group of a pattern (`ExtractPattern`). -/
structure Picker where
  source : NamedMachine
  group : Nat

/-- Values for exact texts (`ExtractNormalize`); from lists a text is picked first. -/
structure PickRules where
  pickers : List Picker
  outputs : List (String × Value)
  default : Value

/-! ## Amounts -/

/-- How a captured amount is respelled (`AmountTransform`). -/
inductive Respelling where
  /-- Zero decimals are dropped. -/
  | whole
  | simple
deriving DecidableEq, Repr

/-- The respelled amount. -/
def Respelling.apply : Respelling → String → String
  | whole => Amount.respellWhole
  | simple => Amount.respell

/-- What an amount rule gives (`AmountAction`). -/
inductive AmountAction where
  | literal (output : Value)
  /-- The first group respelled. -/
  | transform (r : Respelling)

/-- A pattern and what it gives (`AmountRule`). -/
structure AmountRule where
  source : NamedMachine
  action : AmountAction

/-- Rules for amounts by patterns (`AmountNormalization`). -/
structure AmountRules where
  rules : List AmountRule
  default : Option Value

/-! ## Numbers -/

/-- The kind of number that is wanted (`NumericType`). -/
inductive NumericType where
  | integer
  | float
deriving DecidableEq, Repr

/-- The name of a kind of number. -/
def NumericType.name : NumericType → String
  | integer => "integer"
  | float => "float"

/-- What a text stands for (`NumericRule`): a number as it is, or the text's own amount times a
factor. -/
structure NumericRule where
  pattern : String
  output : Value
  multiplier : Number.Decimal

/-- Conversion to numbers (`NumericConversion`). -/
structure NumericRules where
  rules : List NumericRule
  kind : NumericType
  /-- The convention of the amounts; none means by their separators. -/
  turkish : Option Bool
  default : Option Value

/-! ## Strategies -/

/-- How the values of one field are normalized (`FieldMapping`). -/
inductive Strategy where
  /-- Always the same value. -/
  | fixed (output : Value)
  | substring (rules : SubstringRules)
  | pick (rules : PickRules)
  | amount (rules : AmountRules)
  | numeric (rules : NumericRules)
  /-- A kind that is not known: values stay as they are. -/
  | unrecognized (kind : String)

/-- The configured name of a strategy (`kind`). -/
def Strategy.kind : Strategy → String
  | fixed _ => "fixed_value"
  | substring _ => "pattern_to_value"
  | pick _ => "extract_normalize"
  | amount _ => "amount_normalization"
  | numeric _ => "numeric_conversion"
  | unrecognized kind => kind

end PolicyFields.Mapping
