import PolicyFields.Files.Store

/-!
# File name patterns

A pattern is a path in which `*` stands for any characters of a name, `?` for one, a bracket for one
of a set, and `**` as a whole name for any number of directories.

* `Glob.Wildcard`, `Glob.ofText` — the pattern of a name.
* `Glob.matchesName` — whether a name fits.
* `Files.expand` — the paths that fit a pattern.
-/

namespace PolicyFields

namespace Glob

/-- A part of a set of characters. -/
inductive CharSpec where
  | one (c : Char)
  | range (first last : Char)
deriving DecidableEq, Repr

/-- Whether a character is in a part. -/
def CharSpec.has (c : Char) : CharSpec → Bool
  | one d => c == d
  | range first last => first ≤ c && c ≤ last

/-- A part of a pattern. -/
inductive Wildcard where
  | char (c : Char)
  | anyChar
  | anyText
  /-- Any number of directories. -/
  | anyPath
  | within (specs : List CharSpec)
  | except (specs : List CharSpec)
deriving DecidableEq, Repr

/-- A fault in a pattern. -/
inductive Fault where
  | longStar
  | starsInName
  | bracket
deriving DecidableEq, Repr

/-- What is wrong with a pattern, and at which character. -/
structure PatternError where
  position : Nat
  fault : Fault
deriving DecidableEq, Repr

/-- The wording of a fault. -/
def Fault.message : Fault → String
  | longStar => "wildcards are either regular \x60*\x60 or recursive \x60**\x60"
  | starsInName => "recursive wildcards must form a single path component"
  | bracket => "invalid range pattern"

/-- The wording of an error. -/
def PatternError.message (e : PatternError) : String :=
  "Pattern syntax error near position " ++ toString e.position ++ ": " ++ e.fault.message

/-- The parts of a set: characters and ranges. -/
def charSpecs : List Char → List CharSpec
  | a :: '-' :: b :: r => .range a b :: charSpecs r
  | a :: r => .one a :: charSpecs r
  | [] => []

/-- The set that the characters behind an opening bracket begin with, and how many characters it
takes. It has at least one character before the closing bracket. -/
def bracket? (cs : List Char) : Option (Wildcard × Nat) :=
  let closed (body : List Char) : Option (List Char) :=
    match body with
    | first :: r => if r.contains ']' then some (first :: r.takeWhile (· != ']')) else none
    | [] => none
  match cs with
  | '!' :: body => (closed body).map fun set => (.except (charSpecs set), set.length + 2)
  | body => (closed body).map fun set => (.within (charSpecs set), set.length + 1)

/-- The parts of a pattern from the character at `position` on; `before` is the character in front,
and `skip` characters have been read already. -/
def readFrom : Nat → Nat → Option Char → List Char → Except PatternError (List Wildcard)
  | _, _, _, [] => .ok []
  | skip + 1, position, _, c :: r => readFrom skip (position + 1) (some c) r
  | 0, position, _, '?' :: r => do
    return .anyChar :: (← readFrom 0 (position + 1) (some '?') r)
  | 0, position, _, '[' :: r =>
    match bracket? r with
    | some (w, length) => do return w :: (← readFrom length (position + 1) (some '[') r)
    | none => .error ⟨position, .bracket⟩
  | 0, position, before, '*' :: r =>
    match (r.takeWhile (· == '*')).length with
    | 0 => do return .anyText :: (← readFrom 0 (position + 1) (some '*') r)
    | 1 =>
      if before.all (· == '/') then
        match r.drop 1 with
        | [] => do return .anyPath :: (← readFrom 1 (position + 1) (some '*') r)
        | '/' :: _ => do return .anyPath :: (← readFrom 2 (position + 1) (some '*') r)
        | _ => .error ⟨position + 2, .starsInName⟩
      else .error ⟨position - 1, .starsInName⟩
    | _ => .error ⟨position + 2, .longStar⟩
  | 0, position, _, c :: r => do return .char c :: (← readFrom 0 (position + 1) (some c) r)

/-- The parts of a pattern. -/
def ofText (s : String) : Except PatternError (List Wildcard) := readFrom 0 0 none s.toList

/-- The text of a pattern that fits only itself. -/
def literal? : List Wildcard → Option (List Char)
  | [] => some []
  | .char c :: r => (literal? r).map (c :: ·)
  | _ :: _ => none

/-- Whether a name fits the parts of a pattern. -/
def matchesName : List Wildcard → List Char → Bool
  | [], cs => cs.isEmpty
  | .anyText :: ws, [] => matchesName ws []
  | .anyText :: ws, c :: cs => matchesName ws (c :: cs) || matchesName (.anyText :: ws) cs
  | .anyPath :: ws, [] => matchesName ws []
  | .anyPath :: ws, c :: cs => matchesName ws (c :: cs) || matchesName (.anyPath :: ws) cs
  | _ :: _, [] => false
  | .char d :: ws, c :: cs => c == d && matchesName ws cs
  | .anyChar :: ws, _ :: cs => matchesName ws cs
  | .within specs :: ws, c :: cs => specs.any (·.has c) && matchesName ws cs
  | .except specs :: ws, c :: cs => !specs.any (·.has c) && matchesName ws cs
termination_by ws cs => (ws.length, cs.length)

/-- Whether the pattern of a name stands for any number of directories. -/
def crosses (ws : List Wildcard) : Bool := ws.contains .anyPath

/-- The patterns of the names of a path pattern, once the pattern as a whole has been read. -/
def names (pattern : Path) : Except PatternError (List (List Wildcard)) := do
  let _ ← ofText pattern.text
  let segments := if pattern.isAbsolute then pattern.segments.drop 1 else pattern.segments
  let segments := if pattern.endsInSlash then segments.dropLast else segments
  segments.mapM ofText

end Glob

namespace Files

open Glob

/-- The path of a name seen from a directory; from the starting directory it is the name alone. -/
def below (dir : Path) (name : String) : Path :=
  if dir.components == [.here] then ⟨name⟩ else dir.child name

mutual

/-- The paths below `dir` that fit the patterns of names. -/
def expandIn (f : Files) : Nat → Path → List (List Wildcard) → List Path
  | 0, _, _ => []
  | _, dir, [] => [dir]
  | fuel + 1, dir, ws :: r =>
    match literal? ws with
    | some cs =>
      let next := below dir (String.ofList cs)
      if (if cs == ['.'] || cs == ['.', '.'] then f.isDirectory dir else f.has next)
      then expandIn f fuel next r else []
    | none =>
      match f.isDirectory dir, f.listDirectory dir with
      | true, .ok entries =>
        let special := ([".", ".."].filter fun s =>
          ws.head? == some (.char '.') && matchesName ws s.toList).flatMap fun s =>
            expandIn f fuel (dir.child s) r
        special ++ entries.flatMap fun e => expandAt f fuel (below dir e.1) e.1 (ws :: r)
      | _, _ => []

/-- The paths that fit the patterns of names at or below `p`, which has the name `name`. -/
def expandAt (f : Files) : Nat → Path → String → List (List Wildcard) → List Path
  | 0, _, _, _ => []
  | _, _, _, [] => []
  | fuel + 1, p, name, ws :: r =>
    if crosses ws then
      match r.dropWhile crosses with
      | [] => if f.isDirectory p then p :: expandIn f fuel p [ws] else []
      | next :: r =>
        (if f.isDirectory p then expandIn f fuel p (ws :: next :: r) else []) ++
          expandAt f fuel p name (next :: r)
    else if matchesName ws name.toList then
      if r.isEmpty then [p] else expandIn f fuel p r
    else []

end

/-- The paths that fit a path pattern, in order. -/
def expand (f : Files) (pattern : Path) : Except PatternError (List Path) := do
  let ws ← names pattern
  let dir : Path := if pattern.isAbsolute then ⟨"/"⟩ else ⟨"."⟩
  return (f.expandIn (2 * (f.nodes.length + ws.length) + 2) dir ws).mergeSort fun p q => !q.before p

end Files

end PolicyFields
