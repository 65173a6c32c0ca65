import PolicyFields.Json.Value
import PolicyFields.Json.Writer
import PolicyFields.Text.Quoted

/-!
# What can be wrong with a JSON text or value

* `Fault` — the text breaks the grammar; `Fault.endsEarly` tells the faults of a text that stops
  too soon from the others.
* `Mismatch` — the value has another shape than the one asked for.
* `Error` — either of the two, with its wording in `Error.message`.
-/

namespace PolicyFields.Json

/-- A fault in the grammar of a text. -/
inductive Fault where
  | endInList | endInObject | endInString | endInValue
  | expectedColon | expectedListComma | expectedObjectComma | expectedName | expectedValue
  | invalidEscape | invalidNumber | numberOutOfRange | invalidCodePoint
  | controlCharacter | keyNotString | loneSurrogate | endOfHexEscape
  | trailingComma | trailingCharacters | tooDeep
deriving DecidableEq, Repr

namespace Fault

/-- Whether the text ends where more was needed. -/
def endsEarly : Fault → Bool
  | endInList | endInObject | endInString | endInValue => true
  | _ => false

/-- The wording of a fault. -/
def message : Fault → String
  | endInList => "EOF while parsing a list"
  | endInObject => "EOF while parsing an object"
  | endInString => "EOF while parsing a string"
  | endInValue => "EOF while parsing a value"
  | expectedColon => "expected \x60:\x60"
  | expectedListComma => "expected \x60,\x60 or \x60]\x60"
  | expectedObjectComma => "expected \x60,\x60 or \x60\x7d\x60"
  | expectedName => "expected ident"
  | expectedValue => "expected value"
  | invalidEscape => "invalid escape"
  | invalidNumber => "invalid number"
  | numberOutOfRange => "number out of range"
  | invalidCodePoint => "invalid unicode code point"
  | controlCharacter => "control character (\\u0000-\\u001F) found while parsing a string"
  | keyNotString => "key must be a string"
  | loneSurrogate => "lone leading surrogate in hex escape"
  | endOfHexEscape => "unexpected end of hex escape"
  | trailingComma => "trailing comma"
  | trailingCharacters => "trailing characters"
  | tooDeep => "recursion limit exceeded"

end Fault

/-- What was found where something else was expected. -/
inductive Found where
  | null
  | bool (b : Bool)
  | int (n : Int)
  | float (x : Float)
  | string (s : String)
  | sequence
  | map
deriving DecidableEq

namespace Found

/-- The wording of what was found. -/
def message : Found → String
  | null => "null"
  | bool b => "boolean \x60" ++ (if b then "true" else "false") ++ "\x60"
  | int n => "integer \x60" ++ String.ofList (intChars n) ++ "\x60"
  | float x => "floating point \x60" ++ PolicyFields.Number.jsonText x ++ "\x60"
  | string s => "string " ++ Text.quote s
  | sequence => "sequence"
  | map => "map"

end Found

/-- A value of another shape than the one asked for. -/
inductive Mismatch where
  /-- The kind of value is wrong. -/
  | wrongType (found : Found) (expected : String)
  /-- The kind is right, the value is not. -/
  | wrongValue (found : Found) (expected : String)
  /-- A list that stands for a record is too short. -/
  | tooShort (length : Nat) (expected : String)
  /-- A list that stands for a record is too long. -/
  | tooLong (length : Nat)
  | missingField (name : String)
  | duplicateField (name : String)
  | unknownVariant (name : String) (known : List String)
  /-- None of the shapes that a value may have fits. -/
  | noVariant (name : String)
  /-- A rule of the shape's own. -/
  | custom (message : String)
deriving DecidableEq

namespace Mismatch

/-- The names of variants, each in backquotes, as a list in words. -/
def variantList (known : List String) : String :=
  String.intercalate " or " (known.map fun k => "\x60" ++ k ++ "\x60")

/-- The wording of a mismatch. -/
def message : Mismatch → String
  | wrongType found expected => "invalid type: " ++ found.message ++ ", expected " ++ expected
  | wrongValue found expected => "invalid value: " ++ found.message ++ ", expected " ++ expected
  | tooShort length expected =>
    "invalid length " ++ toString length ++ ", expected " ++ expected
  | tooLong length =>
    "invalid length " ++ toString length ++ ", expected fewer elements in array"
  | missingField name => "missing field \x60" ++ name ++ "\x60"
  | duplicateField name => "duplicate field \x60" ++ name ++ "\x60"
  | unknownVariant name known =>
    "unknown variant \x60" ++ name ++ "\x60, expected " ++ variantList known
  | noVariant name => "data did not match any variant of untagged enum " ++ name
  | custom message => message

end Mismatch

/-- A text or a value that cannot be used. -/
inductive Error where
  | fault (f : Fault)
  | mismatch (m : Mismatch)
deriving DecidableEq

/-- The wording of an error. -/
def Error.message : Error → String
  | fault f => f.message
  | mismatch m => m.message

end PolicyFields.Json
