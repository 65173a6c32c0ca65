import PolicyFields.Json.Source

/-!
# The outline of a JSON text

A `Tree` is what a text says before anything is asked of it. It keeps the order of members and those
that come twice, and it keeps the faults of the text at the places where a reader meets them, so
that reading from left to right meets the first of all errors, of the text or of the shape, and
passes over those that only matter to a reader who wants the content.

* `Token` — a string or a number, and what is wrong with it when it is read or skipped.
* `Tree.value`, `Tree.view`, `Tree.skip?` — a text as a `Source`.
-/

namespace PolicyFields.Json

/-- A string or a number in a text. -/
structure Token (α : Type) where
  /-- Its content. -/
  read : Except Fault α
  /-- What is wrong with it even if nobody asks for its content. -/
  skip : Option Fault

/-- What stands behind the last item of a list. -/
inductive ListEnd where
  | closed
  /-- The text ends. -/
  | endsHere
  /-- Neither a comma nor a bracket. -/
  | noComma
  /-- A comma and then the bracket. -/
  | commaThenClosed
  /-- A comma and then the end of the text. -/
  | commaThenEnd
deriving DecidableEq, Repr

namespace ListEnd

/-- Met when one more item is asked for. -/
def full : ListEnd → Option Fault
  | closed => none
  | endsHere => some .endInList
  | noComma => some .expectedListComma
  | commaThenClosed => some .trailingComma
  | commaThenEnd => some .endInValue

/-- Met when the list is skipped. -/
def skip : ListEnd → Option Fault
  | closed => none
  | endsHere => some .endInList
  | noComma => some .expectedListComma
  | commaThenClosed => some .expectedValue
  | commaThenEnd => some .endInValue

/-- Met when the list is to be closed. -/
def cut : ListEnd → Option Fault
  | closed => none
  | endsHere => some .endInList
  | noComma => some .trailingCharacters
  | commaThenClosed => some .trailingComma
  | commaThenEnd => some .trailingCharacters

end ListEnd

/-- What stands behind the last member of an object. -/
inductive ObjectEnd where
  | closed
  /-- The text ends. -/
  | endsHere
  /-- Neither a comma nor a brace. -/
  | noComma
  /-- Something else than a string where a key should be. -/
  | noKey
  /-- A comma and then the brace. -/
  | commaThenClosed
  /-- A comma and then the end of the text. -/
  | commaThenEnd
deriving DecidableEq, Repr

namespace ObjectEnd

/-- Met when one more member is asked for. -/
def full : ObjectEnd → Option Fault
  | closed => none
  | endsHere => some .endInObject
  | noComma => some .expectedObjectComma
  | noKey => some .keyNotString
  | commaThenClosed => some .trailingComma
  | commaThenEnd => some .endInValue

/-- Met when the object is skipped. -/
def skip : ObjectEnd → Option Fault
  | closed => none
  | endsHere => some .endInObject
  | noComma => some .expectedObjectComma
  | noKey => some .keyNotString
  | commaThenClosed => some .keyNotString
  | commaThenEnd => some .endInObject

end ObjectEnd

/-- What a text says. -/
inductive Tree where
  | null
  | bool (b : Bool)
  | number (n : Token Number)
  | string (s : Token String)
  | list (items : List Tree) (ending : ListEnd)
  | object (members : List (Token String × Tree)) (ending : ObjectEnd)
  /-- A list or an object inside too many others. -/
  | tooDeep (t : Tree)
  /-- The text goes wrong before the value can be told. -/
  | broken (f : Fault)

namespace Tree

instance : Inhabited Tree := ⟨.null⟩

/-- A fault of the text as an error. -/
def raise {α : Type} (f : Option Fault) (a : α) : Except Error α :=
  match f with
  | some f => .error (.fault f)
  | none => .ok a

/-- The content of a token. -/
def content {α : Type} (t : Token α) : Except Error α := t.read.mapError .fault

mutual

/-- The first fault that is met when the content is not asked for. -/
def skip? : Tree → Option Fault
  | null | bool _ => none
  | number n => n.skip
  | string s => s.skip
  | list items ending => skipItems? items ending
  | object members ending => skipMembers? members ending
  | tooDeep t => skip? t
  | broken f => some f

/-- The first fault in a list. -/
def skipItems? : List Tree → ListEnd → Option Fault
  | [], ending => ending.skip
  | t :: r, ending => match skip? t with
    | some f => some f
    | none => skipItems? r ending

/-- The first fault in an object. -/
def skipMembers? : List (Token String × Tree) → ObjectEnd → Option Fault
  | [], ending => ending.skip
  | (k, t) :: r, ending => match k.skip with
    | some f => some f
    | none => match skip? t with
      | some f => some f
      | none => skipMembers? r ending

end

mutual

/-- The value, or the first error on the way. -/
def value : Tree → Except Error Value
  | null => .ok .null
  | bool b => .ok (.bool b)
  | number n => (content n).map .number
  | string s => (content s).map .string
  | list items ending => (itemValues items ending).map .array
  | object members ending => (memberValues members ending).map fun ms =>
      .object (Dict.ofList ms).entries
  | tooDeep _ => .error (.fault .tooDeep)
  | broken f => .error (.fault f)

/-- The values of items. -/
def itemValues : List Tree → ListEnd → Except Error (List Value)
  | [], ending => raise ending.full []
  | t :: r, ending => match value t with
    | .error e => .error e
    | .ok v => (itemValues r ending).map (v :: ·)

/-- The keys and values of members. -/
def memberValues : List (Token String × Tree) → ObjectEnd → Except Error (List (String × Value))
  | [], ending => raise ending.full []
  | (k, t) :: r, ending => match content k, value t with
    | .error e, _ => .error e
    | .ok _, .error e => .error e
    | .ok key, .ok v => (memberValues r ending).map ((key, v) :: ·)

end

/-- One level. -/
def view : Tree → Except Error (View Tree)
  | null => .ok .null
  | bool b => .ok (.bool b)
  | number n => (content n).map .number
  | string s => (content s).map .string
  | list items ending => .ok (.list ⟨items, ending.full.map .fault, fun used =>
      if used < items.length then some (.fault .trailingCharacters) else ending.cut.map .fault⟩)
  | object members ending =>
    .ok (.object ⟨members.map fun m => (content m.1, m.2), ending.full.map .fault⟩)
  | tooDeep _ => .error (.fault .tooDeep)
  | broken f => .error (.fault f)

instance : Source Tree where
  view := view
  value := value
  skip t := t.skip?.map .fault

end Tree

end PolicyFields.Json
