import PolicyFields.Regex.Program

/-!
# Searching with a program

A search keeps a list of threads, the preferred ones first, all at one place of the text. `explore`
follows a thread to the instructions that look at a character, never twice to the same instruction
at one place, so a search takes time proportional to the text and to the program. When a thread is
done, those behind it are dropped; those before it may still find a match that is preferred.

* `Span`, `Match` — where something matched.
* `find?` — the first match at or behind a place.
* `findAll` — successive matches that do not overlap.
-/

namespace PolicyFields.Regex

/-- A stretch of a text. -/
structure Span where
  start : Nat
  length : Nat
deriving DecidableEq, Repr

namespace Span

/-- The place behind the stretch. -/
def stop (s : Span) : Nat := s.start + s.length

/-- The characters of the stretch. -/
def slice (s : Span) (text : List Char) : List Char := (text.drop s.start).take s.length

end Span

/-- A match of a pattern, and the groups that took part in it by their index. -/
structure Match where
  whole : Span
  groups : List (Nat × Span)
deriving DecidableEq, Repr

/-- The stretch of a group; group 0 is the whole match. -/
def Match.group? (m : Match) (index : Nat) : Option Span :=
  if index = 0 then some m.whole else m.groups.lookup index

/-- A place in a text: how many characters stand before it, the last of them, and what follows. -/
structure Place where
  index : Nat
  before : Option Char
  rest : List Char

namespace Place

/-- The beginning of a text. -/
def first (text : List Char) : Place := ⟨0, none, text⟩

/-- The place behind the next character. -/
def next? (p : Place) : Option Place :=
  match p.rest with
  | [] => none
  | c :: r => some ⟨p.index + 1, some c, r⟩

/-- The place `n` characters on, or the end of the text. -/
def forward : Nat → Place → Place
  | 0, p => p
  | n + 1, p => match p.rest with
    | [] => p
    | c :: r => forward n ⟨p.index + 1, some c, r⟩

end Place

/-- One way in which the pattern may match: the instruction it has come to, where it began, where
groups have begun, and the groups that have ended. -/
structure Thread where
  counter : Nat
  start : Nat
  opened : List (Nat × Nat)
  closed : List (Nat × Span)

namespace Thread

/-- The thread at another instruction. -/
def goto (t : Thread) (counter : Nat) : Thread := { t with counter := counter }

/-- An association list with a new value in place of the old one. -/
def assign {α : Type} (key : Nat) (value : α) (entries : List (Nat × α)) : List (Nat × α) :=
  (key, value) :: entries.filter fun e => e.1 != key

/-- A group begins. -/
def openGroup (t : Thread) (group index : Nat) : Thread :=
  { t with opened := assign group index t.opened }

/-- A group ends. -/
def closeGroup (t : Thread) (group index : Nat) : Thread :=
  match t.opened.lookup group with
  | some start => { t with closed := assign group ⟨start, index - start⟩ t.closed }
  | none => t

/-- The match of a thread that is done. -/
def toMatch (t : Thread) (index : Nat) : Match := ⟨⟨t.start, index - t.start⟩, t.closed⟩

end Thread

/-- The threads at one place, the preferred ones last, and the instructions met there as bits of a
number. -/
structure Frontier where
  met : Nat
  threads : List Thread

/-- No thread. -/
def Frontier.empty : Frontier := ⟨0, []⟩

/-- The instructions reached from a thread without a character, put before the threads there are;
`fuel` bounds the length of a way. -/
def explore (program : Array Instruction) (p : Place) : Nat → Thread → Frontier → Frontier
  | 0, _, f => f
  | fuel + 1, t, f =>
    if f.met.testBit t.counter then f
    else
      let f : Frontier := ⟨f.met ||| 1 <<< t.counter, f.threads⟩
      match program[t.counter]? with
      | none => f
      | some (.step _ _) => ⟨f.met, t :: f.threads⟩
      | some .done => ⟨f.met, t :: f.threads⟩
      | some (.pass next) => explore program p fuel (t.goto next) f
      | some (.split first second) =>
        explore program p fuel (t.goto second) (explore program p fuel (t.goto first) f)
      | some (.opens group next) => explore program p fuel ((t.openGroup group p.index).goto next) f
      | some (.closes group next) =>
        explore program p fuel ((t.closeGroup group p.index).goto next) f
      | some (.check l next) =>
        if l.holds p.before p.rest.head? then explore program p fuel (t.goto next) f else f

/-- The threads, preferred first, led past the next character `c` of `p` to the place `q`. The
match of the first that is done replaces `best`, and those behind it are dropped. -/
def advance (program : Array Instruction) (p q : Place) (c : Option Char) :
    List Thread → Frontier → Option Match → Frontier × Option Match
  | [], f, best => (f, best)
  | t :: ts, f, best =>
    match program[t.counter]? with
    | some .done => (f, some (t.toMatch p.index))
    | some (.step s next) =>
      if c.any s.contains then
        advance program p q c ts (explore program q (program.size + 1) (t.goto next) f) best
      else advance program p q c ts f best
    | _ => advance program p q c ts f best

/-- The search from the place with `index` characters before it, `before` the last of them, given
the threads there and the best match so far. As long as there is none, a new thread begins at every
place. -/
def searchFrom (program : Array Instruction) :
    List Char → Nat → Option Char → Frontier → Option Match → Option Match
  | rest, index, before, f, best =>
    let p : Place := ⟨index, before, rest⟩
    let f := if best.isNone then explore program p (program.size + 1) ⟨0, index, [], []⟩ f else f
    if f.threads.isEmpty && best.isSome then best
    else match rest with
      | [] => (advance program p p none f.threads.reverse .empty best).2
      | c :: r =>
        let q : Place := ⟨index + 1, some c, r⟩
        let (f, best) := advance program p q (some c) f.threads.reverse .empty best
        searchFrom program r (index + 1) (some c) f best

/-- The first match at or behind a place. -/
def find? (program : Array Instruction) (p : Place) : Option Match :=
  searchFrom program p.rest p.index p.before .empty none

/-- The first match at or behind a place that is not empty at `last`, the end of the match
before. -/
def findNext? (program : Array Instruction) (p : Place) (last : Option Nat) : Option Match :=
  match find? program p with
  | none => none
  | some m =>
    if m.whole.length = 0 ∧ last = some m.whole.start then p.next?.bind (find? program)
    else some m

/-- Successive matches from a place on; `fuel` bounds their number. -/
def findAll (program : Array Instruction) : Nat → Place → Option Nat → List Match
  | 0, _, _ => []
  | fuel + 1, p, last =>
    match findNext? program p last with
    | none => []
    | some m =>
      m :: findAll program fuel (p.forward (m.whole.stop - p.index)) (some m.whole.stop)

end PolicyFields.Regex
