import PolicyFields.Dict
import PolicyFields.Number.Binary

/-!
# JSON values

* `Number` — whole numbers of up to 64 bits, signed or unsigned, kept apart from floats: `1` and
  `1.0` are different values.
* `Value` — the six kinds; reading a text puts the members of an object in key order, each key
  once.
* `Value.same` — equality of values, floats compared as numbers.
-/

namespace PolicyFields.Json

/-- A whole number or a float. -/
inductive Number where
  | int (n : Int)
  | float (x : Float)
deriving DecidableEq

namespace Number

/-- Equal as numbers of one kind: `0.0` and `-0.0` are the same, `1` and `1.0` are not. -/
def same : Number → Number → Bool
  | int a, int b => a == b
  | float a, float b => a == b
  | _, _ => false

/-- The nearest float. -/
def toFloat : Number → Float
  | int n => if n < 0 then -Float.ofNat n.natAbs else Float.ofNat n.natAbs
  | float x => x

end Number

/-- A JSON value. -/
inductive Value where
  | null
  | bool (b : Bool)
  | number (n : Number)
  | string (s : String)
  | array (items : List Value)
  | object (members : List (String × Value))

instance : Inhabited Value := ⟨.null⟩

namespace Value

/-- A whole number. -/
def int (n : Int) : Value := .number (.int n)

/-- A natural number. -/
def nat (n : Nat) : Value := .number (.int n)

/-- A float. -/
def float (x : Float) : Value := .number (.float x)

/-- An object with the entries of a dictionary. -/
def ofDict (d : Dict Value) : Value := .object d.entries

/-- The entries of an object. -/
def dict? : Value → Option (Dict Value)
  | object members => some (Dict.ofList members)
  | _ => none

/-- The value of a member of an object. -/
def member? (key : String) : Value → Option Value
  | object members => members.lookup key
  | _ => none

/-- Whether the value is `null`. -/
def isNull : Value → Bool
  | null => true
  | _ => false

mutual

/-- Equality, floats compared as numbers. -/
def same : Value → Value → Bool
  | null, null => true
  | bool a, bool b => a == b
  | number a, number b => a.same b
  | string a, string b => a == b
  | array a, array b => sameItems a b
  | object a, object b => sameMembers a b
  | _, _ => false

/-- Equality of lists, item by item. -/
def sameItems : List Value → List Value → Bool
  | [], [] => true
  | a :: as, b :: bs => same a b && sameItems as bs
  | _, _ => false

/-- Equality of members, key by key. -/
def sameMembers : List (String × Value) → List (String × Value) → Bool
  | [], [] => true
  | (k, a) :: as, (l, b) :: bs => k == l && same a b && sameMembers as bs
  | _, _ => false

end

end Value

end PolicyFields.Json
