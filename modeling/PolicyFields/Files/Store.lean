import PolicyFields.Files.Error
import PolicyFields.Files.Path

/-!
# Files

A `Files` is a tree of directories and files, kept as a flat list from locations to what is there.
Paths are followed one name at a time, so that a path through a file or through nothing fails even
where it would lead back.

* `locate`, `status` — where a path leads and what is there.
* `readText`, `listDirectory` — reading.
* `makeDirectories`, `write` — the only changes.
-/

namespace PolicyFields

/-- What a file holds. -/
inductive Content where
  | text (s : String)
  /-- A document of one page with some lines, or without pages. -/
  | pdf (lines : Option (List String))
deriving DecidableEq, Repr

/-- What is at a location. -/
inductive Node where
  | file (c : Content)
  | directory
deriving DecidableEq, Repr

/-- The names that lead from the root to a place. -/
abbrev Location := List String

/-- Files and directories, and the directory from which relative paths start. That one and those
above it are always there. -/
structure Files where
  start : Location
  nodes : List (Location × Node)

namespace Files

/-- Nothing but a starting directory. -/
def empty (start : Location) : Files := ⟨start, []⟩

/-- What is at a location. -/
def node? (f : Files) (l : Location) : Option Node :=
  if l <+: f.start then some .directory else f.nodes.lookup l

/-- A location with something else there. -/
def set (f : Files) (l : Location) (n : Node) : Files :=
  { f with nodes := f.nodes.filter (fun e => e.1 != l) ++ [(l, n)] }

/-- An error unless a location is a directory. -/
def needDirectory (f : Files) (l : Location) : Except FileError Unit :=
  match f.node? l with
  | some .directory => .ok ()
  | some (.file _) => .error .notADirectory
  | none => .error .notFound

/-- The location that some segments lead to. All but the last must lead to directories. -/
def walk (f : Files) : Location → List String → Except FileError Location
  | l, [] => .ok l
  | l, s :: r => do
    f.needDirectory l
    match Path.componentOf? s with
    | none | some .root | some .here => walk f l r
    | some .up => walk f l.dropLast r
    | some (.name n) => walk f (l ++ [n]) r

/-- The location where a path begins. -/
def beginning (f : Files) (p : Path) : Location := if p.isAbsolute then [] else f.start

/-- The location of a path; there may be nothing. -/
def locate (f : Files) (p : Path) : Except FileError Location :=
  if p.text.isEmpty then .error .notFound else f.walk (f.beginning p) p.segments

/-- What is at a path. -/
def status (f : Files) (p : Path) : Except FileError Node := do
  match f.node? (← f.locate p) with
  | some n => .ok n
  | none => .error .notFound

/-- Whether there is anything at a path. -/
def has (f : Files) (p : Path) : Bool := (f.status p).isOk

/-- Whether there is a directory at a path. -/
def isDirectory (f : Files) (p : Path) : Bool :=
  match f.status p with
  | .ok .directory => true
  | _ => false

/-- The content of a file. -/
def read (f : Files) (p : Path) : Except FileError Content := do
  match ← f.status p with
  | .file c => .ok c
  | .directory => .error .isADirectory

/-- The text of a file (`read_to_string`). -/
def readText (f : Files) (p : Path) : Except FileError String := do
  match ← f.read p with
  | .text s => .ok s
  | .pdf _ => .error .notText

/-- The name of a location directly below another. -/
def childName? (l : Location) (m : Location) : Option String :=
  match m.reverse with
  | name :: r => if r.reverse = l then some name else none
  | [] => none

/-- What is directly below a location, in no particular order. -/
def children (f : Files) (l : Location) : List (String × Node) :=
  f.nodes.filterMap fun e => (childName? l e.1).map fun name => (name, e.2)

/-- The names in a directory and what they name (`read_dir`). -/
def listDirectory (f : Files) (p : Path) : Except FileError (List (String × Node)) := do
  let l ← f.locate p
  match f.node? l with
  | some .directory => .ok (f.children l)
  | some (.file _) => .error .notADirectory
  | none => .error .notFound

/-- The directories that some components lead through, made where there is nothing. -/
def makeFrom (f : Files) : Location → List Path.Component → Except FileError Files
  | _, [] => .ok f
  | _, .root :: r => makeFrom f [] r
  | l, .here :: r => makeFrom f l r
  | l, .up :: r => makeFrom f l.dropLast r
  | l, .name n :: r =>
    match f.node? (l ++ [n]) with
    | some .directory => makeFrom f (l ++ [n]) r
    | some (.file _) => .error (if r.isEmpty then .alreadyExists else .notADirectory)
    | none => makeFrom (f.set (l ++ [n]) .directory) (l ++ [n]) r

/-- A directory with all those above it, made where there is nothing (`create_dir_all`). -/
def makeDirectories (f : Files) (components : List Path.Component) : Except FileError Files :=
  f.makeFrom f.start components

/-- The directories above a path, made where there is nothing. -/
def makeParents (f : Files) (p : Path) : Except FileError Files :=
  match p.parentComponents? with
  | some components => f.makeDirectories components
  | none => .ok f

/-- Where a file is to be written: its directory must be there, and a slash at the end asks for a
directory. -/
def target (f : Files) (p : Path) : Except FileError Location :=
  if p.endsInSlash then do
    let _ ← f.locate p.withoutSlashes
    throw .isADirectory
  else f.locate p

/-- A file with a new content; its directory must be there. -/
def write (f : Files) (p : Path) (c : Content) : Except FileError Files := do
  let l ← f.target p
  match f.node? l with
  | some .directory => .error .isADirectory
  | _ => .ok (f.set l (.file c))

/-- A file with a new content, its directory being made if need be; a directory that was made stays
there also if the file cannot be written. -/
def writeWithParents (f : Files) (p : Path) (c : Content) : Except FileError Unit × Files :=
  match f.makeParents p with
  | .error e => (.error e, f)
  | .ok g => match g.write p c with
    | .error e => (.error e, g)
    | .ok h => (.ok (), h)

end Files

end PolicyFields
