import PolicyFields.Json.Source

/-!
# Extraction rules

A company's documents are searched by rules, one for every field.

* `Selection` — which part of a match a pattern yields.
* `Entry`, `Rule` — one pattern, or several with a mode that says how they work together.
* `Rule.read`, `Rule.toValue` — rules as JSON.
-/

namespace PolicyFields.Extraction

open Json (Source Value readText readNat readOption readList Shape Field)

/-- Which part of a match a pattern yields (`Group`). -/
inductive Selection where
  /-- A group by its index; 0 is the whole match. -/
  | group (index : Nat)
  /-- All matches of the pattern, each as a whole. -/
  | all
deriving DecidableEq, Repr

/-- The first group. -/
def Selection.default : Selection := group 1

/-- How several patterns work together (`ExtractionMode`). -/
inductive Mode where
  /-- The first pattern that yields something counts. -/
  | first
  /-- All matches of all patterns are collected. -/
  | all
  /-- Any other word: all patterns are tried, and the first that yields something counts. -/
  | other (word : String)
deriving DecidableEq, Repr

namespace Mode

/-- The mode of a word. -/
def ofWord (word : String) : Mode :=
  if word = "first" then first else if word = "all" then all else other word

/-- The word of a mode. -/
def word : Mode → String
  | first => "first"
  | all => "all"
  | other word => word

end Mode

/-- One of several patterns (`PatternSpec`). -/
inductive Entry where
  /-- A pattern that yields its first group. -/
  | bare (pattern : String)
  | detailed (pattern : String) (selection : Selection)
deriving DecidableEq, Repr

namespace Entry

/-- The pattern of an entry. -/
def pattern : Entry → String
  | bare p => p
  | detailed p _ => p

/-- What an entry yields. -/
def selection : Entry → Selection
  | bare _ => .default
  | detailed _ s => s

end Entry

/-- How one field is found (`FieldExtractionConfig`). -/
inductive Rule where
  | single (pattern : String) (selection : Selection)
  | several (entries : List Entry) (mode : Mode)
deriving DecidableEq, Repr

/-! ## Reading -/

section Reading

variable {σ : Type} [Source σ]

/-- An error with a wording of its own. -/
def custom (message : String) : Json.Error := .mismatch (.custom message)

/-- A number or the word for all matches. -/
def Selection.read (s : σ) : Except Json.Error Selection := do
  match ← Source.view s with
  | .string "all" => pure all
  | .string name =>
    throw (custom ("group must be a non-negative integer or \"all\", got \"" ++ name ++ "\""))
  | .number (.int n) =>
    if n < 0 then throw (.mismatch (.noVariant "RawGroup")) else pure (group n.toNat)
  | _ => throw (.mismatch (.noVariant "RawGroup"))

/-- The word of a mode. -/
def Mode.read (s : σ) : Except Json.Error Mode := do
  return ofWord (← readText s)

/-- The members of a detailed entry. -/
def Entry.shape : Shape σ (String × Selection) :=
  ⟨"PatternSpec", [.optional "pattern" readText fun p r => (p, r.2),
    .optional "group" Selection.read fun g r => (r.1, g)]⟩

/-- A pattern, or an object with a pattern and what it yields. -/
def Entry.read (s : σ) : Except Json.Error Entry := do
  match ← Source.view s with
  | .string p => pure (bare p)
  | .object _ => match Entry.shape.read ("", .default) s with
    | .ok (p, g) => pure (detailed p g)
    | .error _ => throw (.mismatch (.noVariant "PatternSpec"))
  | _ => throw (.mismatch (.noVariant "PatternSpec"))

/-- The members of a rule, as far as they are present (`RawFieldConfig`). -/
structure RuleParts where
  pattern : Option String
  selection : Option Selection
  entries : Option (List Entry)
  mode : Option Mode

/-- The members of a rule in order. -/
def RuleParts.shape : Shape σ RuleParts :=
  ⟨"RawFieldConfig", [
    .optional "pattern" (readOption readText) fun x r => { r with pattern := x },
    .optional "group" (readOption Selection.read) fun x r => { r with selection := x },
    .optional "patterns" (readOption (readList Entry.read)) fun x r => { r with entries := x },
    .optional "mode" (readOption Mode.read) fun x r => { r with mode := x }]⟩

/-- The rule that some parts make. -/
def RuleParts.rule (r : RuleParts) : Except Json.Error Rule :=
  match r.pattern, r.entries with
  | some p, none => .ok (.single p (r.selection.getD .default))
  | none, some es => .ok (.several es (r.mode.getD .first))
  | some _, some _ => .error (custom "both \x60pattern\x60 and \x60patterns\x60 are set")
  | none, none => .error (custom "one of \x60pattern\x60 or \x60patterns\x60 is required")

/-- A rule: one pattern, or several with a mode. -/
def Rule.read (s : σ) : Except Json.Error Rule := do
  (← RuleParts.shape.read ⟨none, none, none, none⟩ s).rule

end Reading

/-! ## Writing -/

/-- A selection as JSON. -/
def Selection.toValue : Selection → Value
  | group index => .nat index
  | all => .string "all"

/-- An entry as JSON. -/
def Entry.toValue : Entry → Value
  | bare p => .string p
  | detailed p g => .object [("group", g.toValue), ("pattern", .string p)]

/-- A rule as JSON. -/
def Rule.toValue : Rule → Value
  | single p g => .object [("group", g.toValue), ("pattern", .string p)]
  | several es mode =>
    .object [("mode", .string mode.word), ("patterns", .array (es.map Entry.toValue))]

end PolicyFields.Extraction
