import PolicyFields.Number.FloatReader
import PolicyFields.Number.FloatText

/-!
# Scaled decimals

A `Decimal` is a sign and a number of units of `10 ^ -scale`, with fewer than 96 bits of units and
at most 28 places. It keeps its scale, so `1.50` and `1.5` are different decimals of one value, and
zero may have a sign.

* `ofDigits?` — from digits of a whole part and of a fraction; what does not fit is rounded off.
* `mul?` — the product, rounded to 28 places and 96 bits; none if the whole part is too large.
* `ofFloat?` — about sixteen significant digits of a float.
* `truncate`, `toFloat`, `text`.
-/

namespace PolicyFields.Number

/-- `units / 10 ^ scale` with a sign. -/
structure Decimal where
  negative : Bool
  units : Nat
  scale : Nat
deriving DecidableEq, Repr

namespace Decimal

/-- Units stay below this bound. -/
def unitBound : Nat := 0x1000000000000000000000000

/-- No decimal has more places. -/
def maxScale : Nat := 28

/-- The decimal zero. -/
def zero : Decimal := ⟨false, 0, 0⟩

/-- The decimal one. -/
def one : Decimal := ⟨false, 1, 0⟩

/-- A whole number. -/
def ofInt (n : Int) : Decimal := ⟨n < 0, n.natAbs, 0⟩

/-- The value of a decimal digit. -/
def digitValue (c : Char) : Nat := c.toNat - '0'.toNat

/-- The digits of the whole part added to `m`; none if the bound is reached. -/
def readWhole? (m : Nat) : List Char → Option Nat
  | [] => some m
  | c :: r =>
    let n := 10 * m + digitValue c
    if n < unitBound then readWhole? n r else none

/-- The digit `d` after `m` at `scale` places rounded off. -/
def roundOff? (m scale d : Nat) : Option (Nat × Nat) :=
  if d < 5 then some (m, scale)
  else if m + 1 < unitBound then some (m + 1, scale)
  else if scale = 0 then none
  else some ((m + 1 + 4) / 10, scale - 1)

/-- The digits of the fraction added to `m` at `scale` places, up to the first that does not fit;
that one is rounded off and the rest dropped. -/
def readFraction? (m scale : Nat) : List Char → Option (Nat × Nat)
  | [] => some (m, scale)
  | c :: r =>
    let n := 10 * m + digitValue c
    if scale < maxScale ∧ n < unitBound then readFraction? n (scale + 1) r
    else roundOff? m scale (digitValue c)

/-- The decimal with the given digits before and behind the point. -/
def ofDigits? (whole fraction : List Char) : Option Decimal :=
  (readWhole? 0 whole).bind fun m =>
    (readFraction? m 0 fraction).map fun (u, s) => ⟨false, u, s⟩

/-- The whole part, without places. -/
def truncate (d : Decimal) : Decimal := ⟨d.negative, d.units / Nat.pow 10 d.scale, 0⟩

/-- The whole part as a number. -/
def toInt (d : Decimal) : Int :=
  if d.negative then -Int.ofNat d.truncate.units else Int.ofNat d.truncate.units

/-- `n` units at `scale` places after `drop` digits have been rounded off, a half going to the even
neighbour; one digit more if rounding reached the bound. None if there are too few places. -/
def dropDigits? (n scale drop : Nat) : Option (Nat × Nat) :=
  if scale < drop then none
  else
    let m := roundHalfEven n (Nat.pow 10 drop)
    if m < unitBound then some (m, scale - drop)
    else if scale = drop then none
    else some (roundHalfEven m 10, scale - drop - 1)

/-- The least number of digits, from `drop` on, whose removal brings `n` below the bound. -/
def fittingDrop (n : Nat) : Nat → Nat → Nat
  | 0, drop => drop
  | fuel + 1, drop => if n / Nat.pow 10 drop < unitBound then drop else fittingDrop n fuel (drop + 1)

/-- `n` units at `scale` places, rounded to what a decimal can hold. -/
def fit? (n scale : Nat) : Option (Nat × Nat) :=
  dropDigits? n scale (fittingDrop n 60 (scale - maxScale))

/-- The product, whose zero has no sign; none if it is out of range. -/
def mul? (a b : Decimal) : Option Decimal :=
  if a.units = 0 ∨ b.units = 0 then some zero
  else (fit? (a.units * b.units) (a.scale + b.scale)).map fun (u, s) =>
    ⟨u ≠ 0 && a.negative != b.negative, u, s⟩

/-- The nearest float, by the way of whole part and fraction. -/
def toFloat (d : Decimal) : Float :=
  let n := d.units
  let p := Nat.pow 10 d.scale
  let whole := Float.ofNat (n / p)
  let part := Float.ofNat (n % p) / Float.ofNat p
  let magnitude :=
    if d.scale = 0 || part == 0.0 then whole
    else roundHalfAway ((whole + part) * Float.ofNat p) / Float.ofNat p
  if d.negative then -magnitude else magnitude

/-- Sign, digits and as many places as the scale says. -/
def text (d : Decimal) : String :=
  let ds := natText d.units
  let padded := List.replicate (d.scale + 1 - ds.length) '0' ++ ds
  let sign := if d.negative then ['-'] else []
  let fraction := if d.scale = 0 then [] else '.' :: padded.drop (padded.length - d.scale)
  String.ofList (sign ++ padded.take (padded.length - d.scale) ++ fraction)

/-! ## From a float

The float is `mantissa · 2 ^ e`, and `2 ^ e = 5 ^ -e · 10 ^ e`: the powers of five go into the
units, halving them first where that loses nothing and also where five times the units would not
fit. -/

/-- Units whose remaining factor is five to the power of the first argument, times ten to the
power `e`. -/
def absorbFives : Nat → Nat → Int → Nat × Int
  | 0, m, e => (m, e)
  | k + 1, m, e =>
    if m % 2 = 0 then absorbFives k (m / 2) (e + 1)
    else if 5 * m < unitBound then absorbFives k (5 * m) e
    else absorbFives k (m / 2) (e + 1)

/-- Units to be divided by five to the power of the first argument: doubled, with a power of ten
less, while there is room, then divided. -/
def absorbTwos : Nat → Nat → Int → Nat × Int
  | 0, m, e => (m, e)
  | k + 1, m, e =>
    if m < 0x800000000000000000000000 then absorbTwos k (2 * m) (e - 1) else absorbTwos k (m / 5) e

/-- One digit rounded off, a half going up. -/
def shorten (m : Nat) : Nat := m / 10 + if m % 10 < 5 then 0 else 1

/-- Digits rounded off one by one until at most 28 places are left; none left is zero. -/
def limitPlaces : Nat → Nat → Int → Nat × Int
  | 0, m, e => (m, e)
  | k + 1, m, e =>
    if e < -28 then
      if m / 10 = 0 then (0, 0) else limitPlaces k (shorten m) (e + 1)
    else (m, e)

/-- Digits rounded off one by one while there are places and more than 52 bits. -/
def limitDigits : Nat → Nat → Nat → Nat × Nat
  | 0, m, places => (m, places)
  | k + 1, m, places =>
    if places ≠ 0 ∧ hiddenBit ≤ m then limitDigits k (shorten m) (places - 1) else (m, places)

/-- Zeros at the end of the fraction taken off. -/
def stripZeros : Nat → Nat → Nat × Nat
  | m, 0 => (m, 0)
  | m, places + 1 => if m % 10 = 0 then stripZeros (m / 10) places else (m, places + 1)

/-- About sixteen significant digits of a float; whole numbers keep every digit. None if the float
is not finite or too large. -/
def ofFloat? (x : Float) : Option Decimal :=
  if !isFinite x then none
  else
    let b := Binary.ofFloat x
    if b.mantissa = 0 then some { zero with negative := b.negative }
    else
      let (m, e) :=
        if b.exponent ≤ 0 then absorbFives b.exponent.natAbs b.mantissa b.exponent
        else absorbTwos b.exponent.natAbs b.mantissa b.exponent
      let scaled := if e ≤ 0 then m else m * Nat.pow 10 e.toNat
      if unitBound ≤ scaled then none
      else
        let (m, e) := limitPlaces e.natAbs scaled (if e ≤ 0 then e else 0)
        let (m, places) := limitDigits 40 m e.natAbs
        let (m, places) := stripZeros m places
        some ⟨m ≠ 0 && b.negative, m, places⟩

end Decimal

end PolicyFields.Number
