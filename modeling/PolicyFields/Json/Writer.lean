import PolicyFields.Json.Value
import PolicyFields.Number.FloatText
import PolicyFields.Text.Quoted

/-!
# Writing JSON

* `Value.compact` — on one line, without blanks.
* `Value.pretty` — a line for every item and member, two blanks for every level.
* `Value.plain` — strings as they are, all else as JSON text.

Members are written in the order in which they stand.
-/

namespace PolicyFields.Json

/-- Two hexadecimal digits. -/
def twoHexDigits (n : Nat) : List Char :=
  let ds := Text.hexDigits n
  List.replicate (2 - ds.length) '0' ++ ds

/-- How one character of a string is written: quotes, backslashes and controls are escaped. -/
def escapeChar (c : Char) : List Char :=
  if c == '"' then ['\\', '"']
  else if c == '\\' then ['\\', '\\']
  else if c == '\x08' then ['\\', 'b']
  else if c == '\x0c' then ['\\', 'f']
  else if c == '\n' then ['\\', 'n']
  else if c == '\r' then ['\\', 'r']
  else if c == '\t' then ['\\', 't']
  else if c.toNat < 0x20 then ['\\', 'u', '0', '0'] ++ twoHexDigits c.toNat
  else [c]

/-- A string between quotes. -/
def stringChars (s : String) : List Char := '"' :: s.toList.flatMap escapeChar ++ ['"']

/-- The text of a whole number. -/
def intChars (n : Int) : List Char :=
  if n < 0 then '-' :: Number.natText n.natAbs else Number.natText n.natAbs

/-- The text of a number. -/
def Number.chars : Number → List Char
  | .int n => intChars n
  | .float x => PolicyFields.Number.floatChars PolicyFields.Number.jsonStyle x

namespace Value

mutual

/-- The characters of `compact`. -/
def compactChars : Value → List Char
  | array items => '[' :: itemsChars items ++ [']']
  | object members => '\x7b' :: membersChars members ++ ['\x7d']
  | null => "null".toList
  | bool b => if b then "true".toList else "false".toList
  | number n => n.chars
  | string s => stringChars s

/-- Items with commas between them. -/
def itemsChars : List Value → List Char
  | [] => []
  | v :: [] => compactChars v
  | v :: w :: r => compactChars v ++ ',' :: itemsChars (w :: r)

/-- Members with commas between them. -/
def membersChars : List (String × Value) → List Char
  | [] => []
  | (k, v) :: [] => stringChars k ++ ':' :: compactChars v
  | (k, v) :: e :: r => stringChars k ++ ':' :: compactChars v ++ ',' :: membersChars (e :: r)

end

/-- The value on one line. -/
def compact (v : Value) : String := String.ofList v.compactChars

/-- A new line at a level of nesting. -/
def newLine (level : Nat) : List Char := '\n' :: List.replicate (2 * level) ' '

mutual

/-- The characters of `pretty`, the value standing at a level of nesting. -/
def prettyChars (level : Nat) : Value → List Char
  | array [] => ['[', ']']
  | array (v :: r) =>
    '[' :: newLine (level + 1) ++ prettyItems (level + 1) (v :: r) ++ newLine level ++ [']']
  | object [] => ['\x7b', '\x7d']
  | object (e :: r) =>
    '\x7b' :: newLine (level + 1) ++ prettyMembers (level + 1) (e :: r) ++ newLine level ++ ['\x7d']
  | null => "null".toList
  | bool b => if b then "true".toList else "false".toList
  | number n => n.chars
  | string s => stringChars s

/-- Items, a line each. -/
def prettyItems (level : Nat) : List Value → List Char
  | [] => []
  | v :: [] => prettyChars level v
  | v :: w :: r => prettyChars level v ++ ',' :: newLine level ++ prettyItems level (w :: r)

/-- Members, a line each. -/
def prettyMembers (level : Nat) : List (String × Value) → List Char
  | [] => []
  | (k, v) :: [] => stringChars k ++ ':' :: ' ' :: prettyChars level v
  | (k, v) :: e :: r => stringChars k ++ ':' :: ' ' :: prettyChars level v ++
      ',' :: newLine level ++ prettyMembers level (e :: r)

end

/-- The value with a line for every item and member (`to_string_pretty`). -/
def pretty (v : Value) : String := String.ofList (v.prettyChars 0)

/-- Texts as they are, every other value as JSON text (`value_to_string`). -/
def plain : Value → String
  | string s => s
  | null => compact null
  | bool b => compact (bool b)
  | number n => compact (number n)
  | array items => compact (array items)
  | object members => compact (object members)

end Value

end PolicyFields.Json
