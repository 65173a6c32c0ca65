import PolicyFields.Json.Value

/-!
# Empty values

A value is falsy if it holds nothing: `null`, the empty text, `false`, zero, and lists and objects
without content.
-/

namespace PolicyFields.Json

/-- Whether a number is zero. -/
def Number.isZero : Number → Bool
  | int n => n == 0
  | float x => x == 0.0

/-- Whether a value holds nothing (`is_falsy`). -/
def Value.isFalsy : Value → Bool
  | null => true
  | bool b => !b
  | number n => n.isZero
  | string s => s.isEmpty
  | array items => items.isEmpty
  | object members => members.isEmpty

end PolicyFields.Json
