/-!
# Binary floats as exact numbers

* `Binary` — sign, mantissa and exponent of a finite float; `ofFloat` reads them off its bits.
* `numerator`, `denominator` — the magnitude as a quotient of natural numbers.
* `truncate`, `roundHalfAway` — to whole numbers, exactly.
-/

namespace PolicyFields.Number

/-- The number `± mantissa · 2 ^ exponent`. -/
structure Binary where
  negative : Bool
  mantissa : Nat
  exponent : Int
deriving DecidableEq, Repr

/-- The leading bit of a mantissa of 53 bits, which is not written. -/
def hiddenBit : Nat := 0x10000000000000

/-- The bit that holds the sign. -/
def signBit : Nat := 0x8000000000000000

/-- The eleven bits that hold the exponent. -/
def exponentBits (x : Float) : Nat := x.toBits.toNat / hiddenBit % 2048

/-- Neither infinite nor not a number. -/
def isFinite (x : Float) : Bool := exponentBits x != 2047

/-- Positive or negative infinity. -/
def infinity (negative : Bool) : Float := if negative then -1.0 / 0.0 else 1.0 / 0.0

/-- The result of an operation that has none. -/
def notANumber : Float := 0.0 / 0.0

namespace Binary

/-- The parts of a finite float; without an exponent the leading bit of the mantissa is absent. -/
def ofFloat (x : Float) : Binary :=
  let e := exponentBits x
  let f := x.toBits.toNat % hiddenBit
  { negative := x.toBits.toNat / signBit == 1
    mantissa := if e = 0 then f else hiddenBit + f
    exponent := (if e = 0 then 1 else Int.ofNat e) - 1075 }

/-- Numerator of the magnitude. -/
def numerator (b : Binary) : Nat := b.mantissa * Nat.pow 2 b.exponent.toNat

/-- Denominator of the magnitude. -/
def denominator (b : Binary) : Nat := Nat.pow 2 (-b.exponent).toNat

end Binary

/-- The whole part of a finite float. -/
def truncate (x : Float) : Int :=
  let b := Binary.ofFloat x
  let n := Int.ofNat (b.numerator / b.denominator)
  if b.negative then -n else n

/-- The nearest whole number, a half going away from zero; as a float, infinities unchanged. -/
def roundHalfAway (x : Float) : Float :=
  let b := Binary.ofFloat x
  if b.exponent ≥ 0 then x
  else
    let n := Float.ofNat ((2 * b.numerator + b.denominator) / (2 * b.denominator))
    if b.negative then -n else n

/-- `num / den` as a whole number, a half going to the even neighbour. -/
def roundHalfEven (num den : Nat) : Nat :=
  let q := num / den
  let r := num % den
  if 2 * r < den then q
  else if den < 2 * r then q + 1
  else if q % 2 = 0 then q else q + 1

end PolicyFields.Number
