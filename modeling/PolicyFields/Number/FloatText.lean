import PolicyFields.Number.Shortest

/-!
# Texts of floats

* `FloatStyle` — the decisions of one way to write the shortest decimal of a float.
* `jsonStyle` — as in JSON text: positional from 1e-5 up to below 1e16, whole numbers with `.0`.
* `plainStyle` — every digit, no exponent, whole numbers without a point.
* `fixedText` — a fixed number of places, the exact value rounded, a half to the even neighbour.
-/

namespace PolicyFields.Number

/-- How the shortest decimal is laid out. -/
structure FloatStyle where
  /-- Which exponents of the leading digit are written positionally. -/
  positional : Int → Bool
  /-- What follows a whole number. -/
  wholeMark : List Char

/-- The exponent of the leading digit, positional from -5 to 15, and `.0` after whole numbers. -/
def jsonStyle : FloatStyle := ⟨fun e => -5 ≤ e && e < 16, ['.', '0']⟩

/-- Always positional, nothing after whole numbers. -/
def plainStyle : FloatStyle := ⟨fun _ => true, []⟩

/-- The decimal digits of `n`. -/
def natText (n : Nat) : List Char := Nat.toDigits 10 n

/-- Digits and exponent, point in its place. -/
def positionalText (style : FloatStyle) (d : Decimals) : List Char :=
  let ds := natText d.digits
  if d.exponent ≥ 0 then ds ++ List.replicate d.exponent.toNat '0' ++ style.wholeMark
  else
    let places := (-d.exponent).toNat
    let padded := List.replicate (places + 1 - ds.length) '0' ++ ds
    padded.take (padded.length - places) ++ '.' :: padded.drop (padded.length - places)

/-- One digit, the others behind a point, and the signed exponent. -/
def scientificText (d : Decimals) : List Char :=
  let ds := natText d.digits
  let e := d.exponent + Int.ofNat ds.length - 1
  let fraction := match ds.tail with
    | [] => []
    | rest => '.' :: rest
  ds.take 1 ++ fraction ++ ['e', if e < 0 then '-' else '+'] ++ natText e.natAbs

/-- The text of a float; infinities and what is not a number by name. -/
def floatChars (style : FloatStyle) (x : Float) : List Char :=
  if isFinite x then
    let d := shortest x
    let sign := if (Binary.ofFloat x).negative then ['-'] else []
    let e := d.exponent + Int.ofNat (digitCount d.digits) - 1
    sign ++ if style.positional e then positionalText style d else scientificText d
  else if x == x then (if x < 0 then "-inf".toList else "inf".toList) else "NaN".toList

/-- The text of a float as JSON writes it. -/
def jsonText (x : Float) : String := String.ofList (floatChars jsonStyle x)

/-- The text of a float with every digit. -/
def plainText (x : Float) : String := String.ofList (floatChars plainStyle x)

/-- `x` with `places` decimal places; a half goes to the even neighbour, the sign is kept. -/
def fixedText (places : Nat) (x : Float) : String :=
  if isFinite x then
    let b := Binary.ofFloat x
    let n := roundHalfEven (b.numerator * Nat.pow 10 places) b.denominator
    let ds := natText n
    let padded := List.replicate (places + 1 - ds.length) '0' ++ ds
    let whole := padded.take (padded.length - places)
    let fraction := if places = 0 then [] else '.' :: padded.drop (padded.length - places)
    String.ofList ((if b.negative then ['-'] else []) ++ whole ++ fraction)
  else plainText x

end PolicyFields.Number
