import PolicyFields.Regex.Meaning
import PolicyFields.Regex.Parser
import PolicyFields.Regex.Search
import PolicyFields.Regex.Size

/-!
# Compiled patterns

* `Options` — the switches with which a pattern begins and the room it may take.
* `Options.compile` — the machine of a pattern.
* `Machine.first?`, `Machine.all` — its matches in a text.
-/

namespace PolicyFields.Regex

/-- How patterns are read (`PatternOptions`). -/
structure Options where
  caseInsensitive : Bool
  dotMatchesNewLine : Bool
  sizeLimit : Nat
deriving DecidableEq, Repr

namespace Options

/-- The room that a pattern may take unless something else is said. -/
def defaultSizeLimit : Nat := 10485760

/-- For patterns that run over whole documents: case does not matter, the dot matches every
character. -/
def extraction : Options := ⟨true, true, defaultSizeLimit⟩

/-- For patterns that run over single values: exact case, the dot stays within a line. -/
def plain : Options := ⟨false, false, defaultSizeLimit⟩

/-- The switches with which a pattern begins. -/
def switches (o : Options) : Switches :=
  ⟨o.caseInsensitive, false, o.dotMatchesNewLine, false, true, false⟩

end Options

/-- Why a pattern cannot be used. -/
inductive PatternError where
  | malformed
  | tooBig (limit : Nat)
deriving DecidableEq, Repr

/-- The wording of an error. -/
def PatternError.message : PatternError → String
  | malformed => "regex parse error:"
  | tooBig limit => "Compiled regex exceeds size limit of " ++ toString limit ++ " bytes."

/-- A pattern ready to run: its program and the number of its groups, the whole match counted. -/
structure Machine where
  program : Array Instruction
  groupCount : Nat

/-- The machine of a pattern. -/
def Options.compile (o : Options) (pattern : String) : Except PatternError Machine :=
  match (Tree.ofPattern? pattern).bind (Tree.pattern? o.switches) with
  | none => .error .malformed
  | some (p, _) =>
    if p.exceeds o.sizeLimit then .error (.tooBig o.sizeLimit)
    else .ok ⟨p.program, p.lastGroup + 1⟩

namespace Machine

/-- The first match in a text. -/
def first? (m : Machine) (text : List Char) : Option Match := find? m.program (.first text)

/-- All matches in a text that do not overlap, from left to right. -/
def all (m : Machine) (text : List Char) : List Match :=
  findAll m.program (text.length + 2) (.first text) none

/-- The text of a group in a match of the machine, if the group took part. -/
def groupText? (m : Match) (text : List Char) (index : Nat) : Option String :=
  (m.group? index).map fun s => String.ofList (s.slice text)

end Machine

end PolicyFields.Regex
