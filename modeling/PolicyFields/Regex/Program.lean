import PolicyFields.Regex.Pattern

/-!
# Programs for patterns

A program is a list of instructions, each naming those that come after it; the earlier of two
choices is preferred. `Pattern.code p at next` is the code of `p` for a place in a program, leading
on to `next`; it is `p.codeSize` long and is entered at its first instruction.
-/

namespace PolicyFields.Regex

/-- One instruction. -/
inductive Instruction where
  /-- One character of a set. -/
  | step (s : CharSet) (next : Nat)
  /-- Nothing. -/
  | pass (next : Nat)
  /-- One of two ways, the first preferred. -/
  | split (first second : Nat)
  /-- A group begins. -/
  | opens (index : Nat) (next : Nat)
  /-- A group ends. -/
  | closes (index : Nat) (next : Nat)
  /-- A condition on the place. -/
  | check (l : Look) (next : Nat)
  /-- The pattern has matched. -/
  | done

/-- A choice between going on with a body and leaving it; the body is preferred if greedy. -/
def Instruction.choice (greedy : Bool) (body leave : Nat) : Instruction :=
  if greedy then split body leave else split leave body

namespace Pattern

/-- Copies of a body of size `n`, one after the other. -/
def copies (body : Nat → Nat → List Instruction) (n : Nat) : Nat → Nat → Nat → List Instruction
  | 0, _, _ => []
  | 1, start, next => body start next
  | k + 2, start, next =>
    body start (start + n) ++ copies body n (k + 1) (start + n) next

/-- Copies of a body of size `n`, each of which may be left out with all that follow. -/
def optionalCopies (greedy : Bool) (body : Nat → Nat → List Instruction) (n : Nat) :
    Nat → Nat → Nat → List Instruction
  | 0, _, _ => []
  | k + 1, start, next =>
    .choice greedy (start + 1) next ::
      (body (start + 1) (if k = 0 then next else start + 1 + n) ++
        optionalCopies greedy body n k (start + 1 + n) next)

/-- The length of the code of a repetition whose body has size `n`. -/
def repetitionSize (least : Nat) (most : Option Nat) (consuming : Bool) (n : Nat) : Nat :=
  match most with
  | some most => least * n + (most - least) * (n + 1)
  | none => if least = 0 then (if consuming then n + 1 else n + 2) else least * n + 1

/-- The length of the code of a pattern. -/
def codeSize : Pattern → Nat
  | empty => 1
  | set _ => 1
  | look _ => 1
  | group _ p => codeSize p + 2
  | concat p q => codeSize p + codeSize q
  | alternate p q => codeSize p + codeSize q + 1
  | repetition least most _ p => repetitionSize least most p.isConsuming (codeSize p)

/-- The code of a repetition whose body has size `n`. A body that may match the empty text is
tried once before the choice to repeat it, so that the order of preference is kept. -/
def repetitionCode (least : Nat) (most : Option Nat) (greedy consuming : Bool)
    (body : Nat → Nat → List Instruction) (n start next : Nat) : List Instruction :=
  match most with
  | some most =>
    let behind := start + least * n
    copies body n least start (if most = least then next else behind) ++
      optionalCopies greedy body n (most - least) behind next
  | none =>
    match least with
    | 0 =>
      if consuming then .choice greedy (start + 1) next :: body (start + 1) start
      else .choice greedy (start + 1) next ::
        (body (start + 1) (start + 1 + n) ++ [.choice greedy (start + 1) next])
    | k + 1 =>
      let last := start + k * n
      copies body n (k + 1) start (last + n) ++ [.choice greedy last next]

/-- The code of a pattern at `start`, leading on to `next`. -/
def code : Pattern → Nat → Nat → List Instruction
  | empty, _, next => [.pass next]
  | set s, _, next => [.step s next]
  | look l, _, next => [.check l next]
  | group index p, start, next =>
    .opens index (start + 1) ::
      (code p (start + 1) (start + 1 + codeSize p) ++ [.closes index next])
  | concat p q, start, next =>
    code p start (start + codeSize p) ++ code q (start + codeSize p) next
  | alternate p q, start, next =>
    .split (start + 1) (start + 1 + codeSize p) ::
      (code p (start + 1) next ++ code q (start + 1 + codeSize p) next)
  | repetition least most greedy p, start, next =>
    repetitionCode least most greedy p.isConsuming (code p) (codeSize p) start next

/-- The program of a pattern: its code and the end. -/
def program (p : Pattern) : Array Instruction := (code p 0 p.codeSize ++ [Instruction.done]).toArray

end Pattern

end PolicyFields.Regex
