import PolicyFields.Number.Binary

/-!
# Reading floats

* `ofDigits` — the float nearest to `digits · 10 ^ exponent`.
* `readFloat?` — an optional sign, then digits with at most one point among, before or behind them,
  then an optional exponent; or one of the names of infinity and of no number. Nothing may stand
  before or behind.
-/

namespace PolicyFields.Number

/-- The number that decimal digits write. -/
def digitsValue (cs : List Char) : Nat :=
  cs.foldl (fun n c => 10 * n + (c.toNat - '0'.toNat)) 0

/-- The float nearest to `digits · 10 ^ exponent`; far beyond either end of the range it is zero or
infinite without a computation. -/
def ofDigits (digits : Nat) (exponent : Int) : Float :=
  if digits = 0 then 0.0
  else
    let top := exponent + Int.ofNat (Nat.toDigits 10 digits).length
    if top > 310 then infinity false
    else if top < -330 then 0.0
    else Float.ofScientific digits (exponent < 0) exponent.natAbs

/-- A run of decimal digits and what follows it. -/
def spanDigits (cs : List Char) : List Char × List Char := cs.span Char.isDigit

/-- An optional sign: whether it is a minus, and the rest. -/
def readSign : List Char → Bool × List Char
  | '-' :: r => (true, r)
  | '+' :: r => (false, r)
  | r => (false, r)

/-- The exponent that ends a number: nothing, or `e` with an optional sign and digits. -/
def readExponent? : List Char → Option Int
  | [] => some 0
  | c :: r =>
    if c == 'e' || c == 'E' then
      let (negative, ds) := readSign r
      if ds.isEmpty || !ds.all Char.isDigit then none
      else some (if negative then -Int.ofNat (digitsValue ds) else Int.ofNat (digitsValue ds))
    else none

/-- Digits with at most one point and an optional exponent. -/
def readMagnitude? (cs : List Char) : Option Float :=
  let (whole, r) := spanDigits cs
  let (fraction, r) := match r with
    | '.' :: r => spanDigits r
    | r => ([], r)
  if whole.isEmpty && fraction.isEmpty then none
  else (readExponent? r).map fun e =>
    ofDigits (digitsValue (whole ++ fraction)) (e - Int.ofNat fraction.length)

/-- The float that a text writes, if it writes one. -/
def readFloat? (s : String) : Option Float :=
  let (negative, r) := readSign s.toList
  let name := String.ofList (r.map Char.toLower)
  let magnitude? :=
    if name == "inf" || name == "infinity" then some (infinity false)
    else if name == "nan" then some notANumber
    else readMagnitude? r
  magnitude?.map fun x => if negative then -x else x

end PolicyFields.Number
