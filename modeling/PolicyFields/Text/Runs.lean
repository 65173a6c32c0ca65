import PolicyFields.Text.Blank

/-!
# Runs of code points

A `Runs α` gives every code point a value by listing where the value changes. It is read from a
text of items `START:NAME`, the start in hexadecimal, and looked up by bisection.
-/

namespace PolicyFields.Text

universe u

/-- The value of a hexadecimal digit. -/
def hexDigit? (c : Char) : Option Nat :=
  if '0' ≤ c && c ≤ '9' then some (c.toNat - '0'.toNat)
  else if 'a' ≤ c && c ≤ 'f' then some (c.toNat - 'a'.toNat + 10)
  else if 'A' ≤ c && c ≤ 'F' then some (c.toNat - 'A'.toNat + 10)
  else none

/-- The number that hexadecimal digits write; other characters count as nothing. -/
def hexValue (cs : List Char) : Nat :=
  cs.foldl (fun n c => match hexDigit? c with
    | some d => 16 * n + d
    | none => n) 0

/-- The parts of `cs` between the characters `sep`: always one more than there are separators. -/
def splitAt (sep : Char) : List Char → List (List Char)
  | [] => [[]]
  | c :: r => match splitAt sep r with
    | [] => [[c]]
    | first :: others => if c == sep then [] :: first :: others else (c :: first) :: others

/-- Where values start, in increasing order; each value holds up to the next start. -/
structure Runs (α : Type u) where
  starts : Array (Nat × α)

namespace Runs

variable {α : Type u}

/-- The last index in `[low, high)` whose run starts at or before `n`; `fuel` bounds the
halvings. -/
def bisect (starts : Array (Nat × α)) (n : Nat) : Nat → Nat → Nat → Nat
  | 0, low, _ => low
  | fuel + 1, low, high =>
    if high ≤ low + 1 then low
    else
      let middle := (low + high) / 2
      match starts[middle]? with
      | some s => if s.1 ≤ n then bisect starts n fuel middle high else bisect starts n fuel low middle
      | none => low

/-- The value at the code point `n`. -/
def at? (r : Runs α) (n : Nat) : Option α :=
  (r.starts[bisect r.starts n r.starts.size 0 r.starts.size]?).map Prod.snd

/-- The runs that a text lists; items whose name `value?` does not know are left out. -/
def ofText (value? : String → Option α) (text : String) : Runs α :=
  ⟨((words text.toList).filterMap fun item =>
    match splitAt ':' item with
    | [start, name] => (value? (String.ofList name)).map fun v => (hexValue start, v)
    | _ => none).toArray⟩

/-- The code points of the runs whose value satisfies `p`, as closed ranges; neighbours that both
do are one range. -/
def ranges (p : α → Bool) (r : Runs α) : List (Nat × Nat) :=
  let step (acc : List (Nat × Nat) × Option Nat) (s : Nat × α) : List (Nat × Nat) × Option Nat :=
    match acc.2, p s.2 with
    | none, true => (acc.1, some s.1)
    | some low, false => ((low, s.1 - 1) :: acc.1, none)
    | _, _ => acc
  match r.starts.foldl step ([], none) with
  | (done, none) => done.reverse
  | (done, some low) => ((low, 0x10FFFF) :: done).reverse

end Runs

/-- Whether `n` lies in one of the closed ranges. -/
def inRanges (ranges : List (Nat × Nat)) (n : Nat) : Bool :=
  ranges.any fun r => r.1 ≤ n && n ≤ r.2

end PolicyFields.Text
