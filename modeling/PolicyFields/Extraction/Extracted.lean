import PolicyFields.Json.Source
import PolicyFields.Text.Quoted

/-!
# Extracted values

`Extracted` is what a rule finds in a document, one text or a list of texts; a result is none if
nothing is found.
-/

namespace PolicyFields.Extraction

open Json (Source Value readText readList)

/-- What is found in a document (`ExtractedValue`). -/
inductive Extracted where
  | text (s : String)
  | list (items : List String)
deriving DecidableEq, Repr

namespace Extracted

/-- The text, if it is one (`as_text`). -/
def text? : Extracted → Option String
  | text s => some s
  | list _ => none

/-- The list, if it is one (`as_list`). -/
def list? : Extracted → Option (List String)
  | text _ => none
  | list items => some items

/-- The value for display. -/
def display : Extracted → String
  | text s => "'" ++ s ++ "'"
  | list items => Text.quoteList items

/-- The value as JSON. -/
def toValue : Extracted → Value
  | text s => .string s
  | list items => .array (items.map Value.string)

/-- A text or a list of texts. -/
def read {σ : Type} [Source σ] (s : σ) : Except Json.Error Extracted := do
  match ← Source.view s with
  | .string t => pure (text t)
  | .list _ => match readList readText s with
    | .ok items => pure (list items)
    | .error _ => throw (.mismatch (.noVariant "ExtractedValue"))
  | _ => throw (.mismatch (.noVariant "ExtractedValue"))

end Extracted

/-- A result as JSON. -/
def resultValue : Option Extracted → Value
  | some e => e.toValue
  | none => .null

end PolicyFields.Extraction
