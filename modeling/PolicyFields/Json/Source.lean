import PolicyFields.Json.Error

/-!
# Reading a shape out of JSON

A shape can be read from a value at hand or from a text that is only partly looked at. `Source` is
what the two have in common: one level can be viewed, the whole can be taken as a value, or it can
be skipped.

* `View` — one level of a source.
* `readText`, `readList`, `readDict`, … — the plain shapes.
* `Field`, `Shape.read` — records, written as an object or as a list of the fields in order.
-/

namespace PolicyFields.Json

/-- The items of a list and what is wrong with the place behind them. -/
structure ListView (σ : Type) where
  items : List σ
  /-- Met when one more item is asked for. -/
  full : Option Error
  /-- Met when the list is to be closed after so many items. -/
  cut : Nat → Option Error

/-- The members of an object, keys first; `full` is met when one more is asked for. -/
structure ObjectView (σ : Type) where
  members : List (Except Error String × σ)
  full : Option Error

/-- One level of a source. -/
inductive View (σ : Type) where
  | null
  | bool (b : Bool)
  | number (n : Number)
  | string (s : String)
  | list (l : ListView σ)
  | object (o : ObjectView σ)

/-- What a view shows, for a message. -/
def View.found {σ : Type} : View σ → Found
  | null => .null
  | bool b => .bool b
  | number (.int n) => .int n
  | number (.float x) => .float x
  | string s => .string s
  | list _ => .sequence
  | object _ => .map

/-- Where shapes can be read from. -/
class Source (σ : Type) where
  /-- One level, or what is wrong with it. -/
  view : σ → Except Error (View σ)
  /-- All of it. -/
  value : σ → Except Error Value
  /-- What is wrong with it when nobody asks for its content. -/
  skip : σ → Option Error

/-- One level of a value. -/
def Value.view : Value → View Value
  | null => .null
  | bool b => .bool b
  | number n => .number n
  | string s => .string s
  | array items =>
    .list ⟨items, none, fun used =>
      if used < items.length then some (.mismatch (.tooLong items.length)) else none⟩
  | object members => .object ⟨members.map fun m => (.ok m.1, m.2), none⟩

instance : Source Value where
  view v := .ok v.view
  value v := .ok v
  skip _ := none

section Readers

variable {σ : Type} [Source σ] {α : Type}

/-- The error of a view that is not what was expected. -/
def wrongType (v : View σ) (expected : String) : Error :=
  .mismatch (.wrongType v.found expected)

/-- An error if there is one. -/
def orElse (e : Option Error) (a : α) : Except Error α :=
  match e with
  | some e => .error e
  | none => .ok a

/-- A string; `expected` names it in messages. -/
def readString (expected : String) (s : σ) : Except Error String := do
  match ← Source.view s with
  | .string t => pure t
  | v => throw (wrongType v expected)

/-- A string. -/
def readText (s : σ) : Except Error String := readString "a string" s

/-- A truth value. -/
def readBool (s : σ) : Except Error Bool := do
  match ← Source.view s with
  | .bool b => pure b
  | v => throw (wrongType v "a boolean")

/-- A whole number that is not negative. -/
def readNat (s : σ) : Except Error Nat := do
  match ← Source.view s with
  | .number (.int n) =>
    if n < 0 then throw (.mismatch (.wrongValue (.int n) "usize")) else pure n.toNat
  | v => throw (wrongType v "usize")

/-- A number as a float. -/
def readFloat (s : σ) : Except Error Float := do
  match ← Source.view s with
  | .number n => pure n.toFloat
  | v => throw (wrongType v "f64")

/-- A number of either kind. -/
def readNumber (s : σ) : Except Error Number := do
  match ← Source.view s with
  | .number n => pure n
  | v => throw (wrongType v "a JSON number")

/-- Nothing for `null`, else what `item` reads. -/
def readOption (item : σ → Except Error α) (s : σ) : Except Error (Option α) := do
  match ← Source.view s with
  | .null => pure none
  | _ => some <$> item s

/-- A list of what `item` reads. -/
def readList (item : σ → Except Error α) (s : σ) : Except Error (List α) := do
  match ← Source.view s with
  | .list l => orElse l.full (← l.items.mapM item)
  | v => throw (wrongType v "a sequence")

/-- A dictionary of what `item` reads; of two members with one key the later counts. -/
def readDict (item : σ → Except Error α) (s : σ) : Except Error (Dict α) := do
  match ← Source.view s with
  | .object o =>
    let entries ← o.members.mapM fun m => do
      let key ← m.1
      return (key, ← item m.2)
    orElse o.full (Dict.ofList entries)
  | v => throw (wrongType v "a map")

end Readers

/-! ## Records -/

section Records

variable {σ : Type} [Source σ] {ρ : Type}

/-- A field of a record: its name, whether a list that stands for the record must have it, and how
what is read goes into the record. -/
structure Field (σ ρ : Type) where
  name : String
  required : Bool
  put : σ → ρ → Except Error ρ

/-- A kind of record: its name in messages and its fields in order. -/
structure Shape (σ ρ : Type) where
  name : String
  fields : List (Field σ ρ)

/-- A field that may be absent. -/
def Field.optional {α : Type} (name : String) (item : σ → Except Error α) (set : α → ρ → ρ) :
    Field σ ρ :=
  ⟨name, false, fun s r => do return set (← item s) r⟩

/-- A field that a list must have. -/
def Field.mandatory {α : Type} (name : String) (item : σ → Except Error α) (set : α → ρ → ρ) :
    Field σ ρ :=
  ⟨name, true, fun s r => do return set (← item s) r⟩

namespace Shape

/-- How messages call a list of all the fields. -/
def listName (shape : Shape σ ρ) : String :=
  "struct " ++ shape.name ++ " with " ++ toString shape.fields.length ++
    (if shape.fields.length = 1 then " element" else " elements")

/-- The items of a list put into the fields in order, the first at index `i`. -/
def putItems (shape : Shape σ ρ) (full : Option Error) :
    Nat → List (Field σ ρ) → List σ → ρ → Except Error ρ
  | _, [], _, r => .ok r
  | i, f :: fs, x :: xs, r => do putItems shape full (i + 1) fs xs (← f.put x r)
  | i, f :: fs, [], r =>
    match full with
    | some e => .error e
    | none =>
      if f.required then .error (.mismatch (.tooShort i shape.listName))
      else putItems shape full (i + 1) fs [] r

/-- The members of an object put into the fields they name; other members are skipped, and no name
may come twice. -/
def putMembers (shape : Shape σ ρ) :
    List String → List (Except Error String × σ) → ρ → Except Error ρ
  | _, [], r => .ok r
  | _, (.error e, _) :: _, _ => .error e
  | seen, (.ok key, x) :: ms, r =>
    match shape.fields.find? fun f => f.name == key with
    | none => match Source.skip x with
      | some e => .error e
      | none => putMembers shape seen ms r
    | some f =>
      if seen.contains key then .error (.mismatch (.duplicateField key))
      else do putMembers shape (key :: seen) ms (← f.put x r)

/-- A record that starts as `r`. -/
def read (shape : Shape σ ρ) (r : ρ) (s : σ) : Except Error ρ := do
  match ← Source.view s with
  | .list l =>
    let r ← shape.putItems l.full 0 shape.fields l.items r
    orElse (l.cut shape.fields.length) r
  | .object o =>
    let r ← shape.putMembers [] o.members r
    orElse o.full r
  | v => throw (wrongType v ("struct " ++ shape.name))

end Shape

/-- The value of a field that must be present. -/
def present {α : Type} (name : String) : Option α → Except Error α
  | some a => .ok a
  | none => .error (.mismatch (.missingField name))

end Records

end PolicyFields.Json
