import PolicyFields.Failure
import PolicyFields.Files.Glob

/-!
# What commands do

A command reads and changes files and prints lines. When it fails, what it has done and printed so
far remains.

* `Piece` — printed text; elapsed times are left open.
* `Complaint` — why a command fails.
* `Step` — a part of a command, with `say`, `fromFiles`, `onFiles`.

Colours, progress bars and what is logged are left out.
-/

namespace PolicyFields.CommandLine

/-- A piece of what is printed. -/
inductive Piece where
  | text (s : String)
  /-- The time since the command began. -/
  | elapsed
deriving DecidableEq, Repr

/-- What commands find around them. -/
structure Surroundings where
  /-- Where settings are if no file is named. -/
  settings : Path
  /-- When the command began. -/
  time : String
deriving DecidableEq, Repr

/-- Why a command fails. -/
inductive Complaint where
  | failure (f : Failure)
  | config (e : ConfigError)
  | file (e : FileError)
  | pattern (e : Glob.PatternError)
  | said (text : String)
deriving DecidableEq

namespace Complaint

/-- The wording of a complaint and of all its causes. -/
def chain : Complaint → List String
  | failure f => f.chain
  | config e => e.message :: e.cause.chain
  | file e => [e.message]
  | pattern e => [e.message]
  | said text => [text]

/-- The wording of a complaint. -/
def message : Complaint → String
  | failure f => f.message
  | config e => e.message
  | file e => e.message
  | pattern e => e.message
  | said text => text

/-- The wording of a complaint with its causes, on one line. -/
def full (c : Complaint) : String := String.intercalate ": " c.chain

end Complaint

/-- The files and what has been printed. -/
structure Desk where
  files : Files
  printed : List Piece

/-- A part of a command. -/
abbrev Step := ExceptT Complaint (StateM Desk)

/-- Pieces printed. -/
def print (pieces : List Piece) : Step Unit :=
  modify fun d => { d with printed := d.printed ++ pieces }

/-- A line printed. -/
def say (line : String) : Step Unit := print [.text line, .text "\n"]

/-- Lines printed. -/
def sayAll (lines : List String) : Step Unit := lines.forM say

/-- A failure. -/
def fail {α : Type} (c : Complaint) : Step α := throw c

/-- A result that has been computed already. -/
def hand {ε α : Type} (complain : ε → Complaint) : Except ε α → Step α
  | .ok a => pure a
  | .error e => fail (complain e)

/-- Something looked up in the files. -/
def fromFiles {ε α : Type} (complain : ε → Complaint) (read : Files → Except ε α) : Step α := do
  hand complain (read (← get).files)

/-- The files changed, also if the change fails halfway. -/
def onFiles {ε α : Type} (complain : ε → Complaint) (change : Files → Except ε α × Files) :
    Step α := do
  let d ← get
  let (result, files) := change d.files
  set { d with files := files }
  hand complain result

/-- The files changed, unless the change fails. -/
def replaceFiles {ε : Type} (complain : ε → Complaint) (change : Files → Except ε Files) :
    Step Unit :=
  onFiles complain fun f => match change f with
    | .ok g => (.ok (), g)
    | .error e => (.error e, f)

/-- What a step comes to, complaints included. -/
def attempt {α : Type} (s : Step α) : Step (Except Complaint α) := fun d =>
  let (result, d) := s.run d
  (.ok result, d)

end PolicyFields.CommandLine
