import PolicyFields.Text.Runs

/-!
# Paths

* `Path` — the text of a path; `components` are what it names, and two paths are the same if their
  components are.
* `join`, `fileName?`, `stem?`, `extension?`, `parent?`.
-/

namespace PolicyFields

/-- A path as written. -/
structure Path where
  text : String
deriving DecidableEq, Repr

namespace Path

/-- One part of a path. -/
inductive Component where
  | root
  /-- A single dot at the beginning; elsewhere it is left out. -/
  | here
  | up
  | name (s : String)
deriving DecidableEq, Repr

namespace Component

/-- The place of the kinds of components in the order of paths. -/
def rank : Component → Nat
  | root => 0
  | here => 1
  | up => 2
  | name _ => 3

/-- The order of components: by kind, names as texts. -/
def before : Component → Component → Bool
  | name a, name b => a < b
  | a, b => a.rank < b.rank

end Component

/-- Whether the path starts at the root. -/
def isAbsolute (p : Path) : Bool := p.text.toList.head? == some '/'

/-- Whether the text ends in a slash. -/
def endsInSlash (p : Path) : Bool := p.text.toList.getLast? == some '/'

/-- The path without slashes at the end; nothing but slashes is the root. -/
def withoutSlashes (p : Path) : Path :=
  match (p.text.toList.reverse.dropWhile (· == '/')).reverse with
  | [] => if p.endsInSlash then ⟨"/"⟩ else p
  | cs => ⟨String.ofList cs⟩

/-- The texts between slashes. -/
def segments (p : Path) : List String := (Text.splitAt '/' p.text.toList).map String.ofList

/-- What a segment names; nothing and a dot name nothing. -/
def componentOf? (s : String) : Option Component :=
  if s == "" || s == "." then none else if s == ".." then some .up else some (.name s)

/-- The components of a path. -/
def components (p : Path) : List Component :=
  let body := p.segments.filterMap componentOf?
  if p.isAbsolute then .root :: body
  else if p.segments.head? == some "." then .here :: body
  else body

/-- Whether two paths have the same components. -/
def same (p q : Path) : Bool := p.components == q.components

/-- The order of lists of components. -/
def componentsBefore : List Component → List Component → Bool
  | _, [] => false
  | [], _ :: _ => true
  | a :: as, b :: bs => a.before b || (a == b && componentsBefore as bs)

/-- The order of paths, component by component. -/
def before (p q : Path) : Bool := componentsBefore p.components q.components

/-- The path `q` seen from `p`. -/
def join (p q : Path) : Path :=
  if q.isAbsolute then q
  else if p.text.isEmpty || p.endsInSlash then ⟨p.text ++ q.text⟩
  else ⟨p.text ++ "/" ++ q.text⟩

/-- The path of a name below `p`. -/
def child (p : Path) (name : String) : Path := p.join ⟨name⟩

/-- The name at the end of a path (`file_name`). -/
def fileName? (p : Path) : Option String :=
  match p.components.getLast? with
  | some (.name s) => some s
  | _ => none

/-- The parts of a name before and behind its last point; a point at the beginning does not
count. -/
def splitName (s : String) : String × Option String :=
  match (Text.splitAt '.' s.toList).reverse with
  | behind :: first :: others =>
    let before := ['.'].intercalate (others.reverse ++ [first])
    if before.isEmpty then (s, none) else (String.ofList before, some (String.ofList behind))
  | _ => (s, none)

/-- The name at the end of a path without its extension (`file_stem`). -/
def stem? (p : Path) : Option String := p.fileName?.map fun s => (splitName s).1

/-- The extension of the name at the end of a path. -/
def extension? (p : Path) : Option String := p.fileName?.bind fun s => (splitName s).2

/-- The components without the last, which is not the root. -/
def parentComponents? (p : Path) : Option (List Component) :=
  match p.components.reverse with
  | [] | .root :: _ => none
  | _ :: r => some r.reverse

end Path

end PolicyFields
