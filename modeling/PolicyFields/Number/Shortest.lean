import PolicyFields.Number.Binary

/-!
# The shortest decimal of a float

A finite float is the nearest float to every real in an interval around it. `shortest` looks for
the coarsest decimal grid that has a point in the interval, trying one digit, two digits and so on,
and of two neighbours on the grid takes the nearer. Seventeen digits are always enough.

* `Decimals` — a whole number of units of a power of ten.
* `Interval` — the reals that round to the float, over a common denominator.
-/

namespace PolicyFields.Number

/-- The number `digits · 10 ^ exponent`. -/
structure Decimals where
  digits : Nat
  exponent : Int
deriving DecidableEq, Repr

/-- The number of decimal digits of `n`; zero has one. -/
def digitCount (n : Nat) : Nat := (Nat.toDigits 10 n).length

/-- The greatest power of ten that `num / den` reaches; both are positive. -/
def magnitude (num den : Nat) : Int :=
  let e := Int.ofNat (digitCount num) - Int.ofNat (digitCount den)
  if den * Nat.pow 10 e.toNat ≤ num * Nat.pow 10 (-e).toNat then e else e - 1

/-- The reals between `low` and `high` over `unit`, the ends among them if `closed`; `value` is the
float itself. -/
structure Interval where
  low : Nat
  value : Nat
  high : Nat
  unit : Nat
  closed : Bool

namespace Interval

/-- The reals that round to a float with positive mantissa. The gap below a power of two is half
the gap above it, the least exponent apart. -/
def ofBinary (b : Binary) : Interval :=
  let scale := Nat.pow 2 b.exponent.toNat
  let narrow := b.mantissa = hiddenBit ∧ -1074 < b.exponent
  { low := (4 * b.mantissa - if narrow then 1 else 2) * scale
    value := 4 * b.mantissa * scale
    high := (4 * b.mantissa + 2) * scale
    unit := 4 * b.denominator
    closed := b.mantissa % 2 == 0 }

/-- The interval measured in units of `10 ^ k`. -/
def scaled (i : Interval) (k : Int) : Interval :=
  let up := Nat.pow 10 (-k).toNat
  { low := i.low * up, value := i.value * up, high := i.high * up,
    unit := i.unit * Nat.pow 10 k.toNat, closed := i.closed }

/-- Whether the whole number `d` lies in the interval. -/
def contains (i : Interval) (d : Nat) : Bool :=
  if i.closed then i.low ≤ d * i.unit && d * i.unit ≤ i.high
  else i.low < d * i.unit && d * i.unit < i.high

/-- The neighbour of the value among the whole numbers that lies in the interval; of two the
nearer, of two as near the even one. -/
def neighbour? (i : Interval) : Option Nat :=
  let d := i.value / i.unit
  match i.contains d, i.contains (d + 1) with
  | true, false => some d
  | false, true => some (d + 1)
  | true, true => some (roundHalfEven i.value i.unit)
  | false, false => none

end Interval

/-- The neighbour on the first of the grids with `n`, `n + 1`, … digits that has one. -/
def searchGrids (i : Interval) (top : Int) : Nat → Nat → Decimals
  | 0, n => ⟨(i.scaled (top - n)).value / (i.scaled (top - n)).unit, top - n⟩
  | more + 1, n =>
    let k := top - n
    match (i.scaled k).neighbour? with
    | some d => ⟨d, k⟩
    | none => searchGrids i top more (n + 1)

/-- Trailing zeros of the digits moved to the exponent; `fuel` bounds their number. -/
def Decimals.reduce : Nat → Decimals → Decimals
  | 0, d => d
  | fuel + 1, d =>
    if d.digits ≠ 0 ∧ d.digits % 10 = 0 then reduce fuel ⟨d.digits / 10, d.exponent + 1⟩ else d

/-- The shortest decimal that rounds to the magnitude of a finite float; zero is `0 · 10 ^ 0`. -/
def shortest (x : Float) : Decimals :=
  let b := Binary.ofFloat x
  if b.mantissa = 0 then ⟨0, 0⟩
  else (searchGrids (.ofBinary b) (magnitude b.numerator b.denominator) 17 0).reduce 20

end PolicyFields.Number
