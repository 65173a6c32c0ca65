import PolicyFields.Extraction.Extracted
import PolicyFields.Extraction.Rule
import PolicyFields.Regex.Machine
import PolicyFields.Text.Blank

/-!
# Running extraction rules

* `Finder` — a pattern with the group it yields; a pattern that does not compile finds nothing.
* `Finder.first?`, `Finder.all` — what it yields in a text, trimmed.
* `FieldFinder` — a rule ready to run, with `FieldFinder.extract`.
-/

namespace PolicyFields.Extraction

open Regex (Machine Match Options)

/-- A pattern ready to run, if it compiles, and the group that it yields (`CompiledPattern`). -/
structure Finder where
  machine : Option Machine
  group : Nat

/-- What a match yields (`resolve_group`). A group that took no part or is empty yields nothing; the
whole match may be empty. -/
def resolve (text : List Char) (group : Nat) (m : Match) : Option String :=
  (m.group? group).bind fun span =>
    let cs := span.slice text
    if group ≠ 0 ∧ cs.isEmpty then none else some (String.ofList (Text.trimChars cs))

namespace Finder

/-- The finder of a pattern (`compile_pattern`). -/
def compile (o : Options) (pattern : String) (group : Nat) : Finder :=
  ⟨(o.compile pattern).toOption, group⟩

/-- Whether the pattern compiles (`is_valid`). -/
def isValid (f : Finder) : Bool := f.machine.isSome

/-- What the first match yields (`first`). -/
def first? (f : Finder) (text : String) : Option String :=
  f.machine.bind fun m =>
    let cs := text.toList
    (m.first? cs).bind (resolve cs f.group)

/-- What all matches yield, empty texts left out (`all`). -/
def all (f : Finder) (text : String) : List String :=
  match f.machine with
  | none => []
  | some m =>
    let cs := text.toList
    ((m.all cs).filterMap (resolve cs f.group)).filter fun s => !s.isEmpty

end Finder

/-- A rule ready to run (`CompiledField`). -/
inductive FieldFinder where
  | one (f : Finder)
  | collect (f : Finder)
  | several (fs : List Finder) (mode : Mode)

namespace FieldFinder

/-- The finder of an entry; all matches of one entry means its first match as a whole. -/
def ofEntry (o : Options) (e : Entry) : Finder :=
  Finder.compile o e.pattern (match e.selection with
    | .group index => index
    | .all => 0)

/-- The finder of a rule (`compile_field`); entries with an empty pattern are left out. -/
def compile (o : Options) : Rule → FieldFinder
  | .single p .all => collect (Finder.compile o p 0)
  | .single p (.group index) => one (Finder.compile o p index)
  | .several entries mode =>
    several ((entries.filter fun e => !e.pattern.isEmpty).map (ofEntry o)) mode

/-- The patterns tried in turn, `hit` being the text found so far. A text that is empty is passed
over, and the first of the others is kept; with `stopAtHit` no pattern behind it is tried. -/
def tryInTurn (stopAtHit : Bool) (text : String) : Option String → List Finder → Option String
  | hit, [] => hit
  | hit, f :: r =>
    match (f.first? text).filter fun s => !s.isEmpty with
    | none => tryInTurn stopAtHit text hit r
    | some s =>
      let hit := hit.or (some s)
      if stopAtHit then hit else tryInTurn stopAtHit text hit r

/-- What a rule finds in a text (`extract`). -/
def extract (text : String) : FieldFinder → Option Extracted
  | one f => (f.first? text).map .text
  | collect f => some (.list (f.all text))
  | several fs .all =>
    let found := fs.flatMap fun f => f.all text
    if found.isEmpty then none else some (.list found)
  | several fs mode => (tryInTurn (mode == .first) text none fs).map .text

end FieldFinder

end PolicyFields.Extraction
