import PolicyFields.Json.Tree
import PolicyFields.Number.FloatReader
import PolicyFields.Text.Runs

/-!
# Reading JSON texts

* `Tree.ofText` — the outline of a text and what stands behind the value.
* `readText` — a whole text as any shape; nothing but blanks may stand behind it.
* `Value.ofText` — a whole text as a value.

Strings, numbers and the spelling of `null`, `true` and `false` are read by functions of their own,
each giving a token and the rest of the text; no rest means that the text cannot be followed any
further.
-/

namespace PolicyFields.Json

/-- The blanks that may stand between the parts of a text. -/
def isSpace (c : Char) : Bool := c == ' ' || c == '\n' || c == '\t' || c == '\r'

/-- The text without the blanks in front. -/
def skipSpace (cs : List Char) : List Char := cs.dropWhile isSpace

/-- Lists and objects inside as many others are not read. -/
def maxDepth : Nat := 127

/-! ## Strings -/

/-- The character that a short escape stands for. -/
def shortEscape? (c : Char) : Option Char :=
  match c with
  | '"' => some '"'
  | '\\' => some '\\'
  | '/' => some '/'
  | 'b' => some '\x08'
  | 'f' => some '\x0c'
  | 'n' => some '\n'
  | 'r' => some '\r'
  | 't' => some '\t'
  | _ => none

/-- Number of bytes of a text. -/
def byteCount (cs : List Char) : Nat := cs.foldl (fun n c => n + c.utf8Size) 0

/-- The four hexadecimal digits of an escape. -/
def readFourHex (cs : List Char) : Except Fault (Nat × List Char) :=
  match cs with
  | a :: b :: c :: d :: r =>
    match Text.hexDigit? a, Text.hexDigit? b, Text.hexDigit? c, Text.hexDigit? d with
    | some a, some b, some c, some d => .ok (((a * 16 + b) * 16 + c) * 16 + d, r)
    | _, _, _, _ => .error .invalidEscape
  | cs => if byteCount cs < 4 then .error .endInString else .error .invalidEscape

/-- The second half of a pair of escapes, whose first half is `high`. -/
def readLowHalf (high : Nat) (cs : List Char) : Except Fault Char :=
  match cs with
  | [] => .error .endInString
  | '\\' :: [] => .error .endInString
  | '\\' :: 'u' :: r => match readFourHex r with
    | .error f => .error f
    | .ok (low, _) =>
      if 0xDC00 ≤ low && low ≤ 0xDFFF then
        .ok (Char.ofNat ((high - 0xD800) * 0x400 + (low - 0xDC00) + 0x10000))
      else .error .loneSurrogate
  | _ => .error .endOfHexEscape

/-- The character that an escape by number stands for, `n` being its digits and `r` what follows;
the flag says that it takes the next escape with it. -/
def numberedChar (n : Nat) (r : List Char) : Except Fault (Char × Bool) :=
  if 0xDC00 ≤ n && n ≤ 0xDFFF then .error .loneSurrogate
  else if 0xD800 ≤ n && n ≤ 0xDBFF then (readLowHalf n r).map (·, true)
  else .ok (Char.ofNat n, false)

/-- The content of a string so far, in reverse, or its first fault. -/
abbrev StringSoFar := Except Fault (List Char)

/-- The rest of a string whose opening quote has been read. `joined` says that the next escape
belongs to the one before. -/
def readStringFrom : StringSoFar → Bool → List Char → Token String × Option (List Char)
  | acc, _, [] => broken acc .endInString
  | acc, _, '"' :: r => (⟨acc.map fun cs => String.ofList cs.reverse, none⟩, some r)
  | acc, _, '\\' :: [] => broken acc .endInString
  | acc, joined, '\\' :: 'u' :: a :: b :: c :: d :: r =>
    match readFourHex [a, b, c, d] with
    | .error f => broken acc f
    | .ok (n, _) =>
      if joined then readStringFrom acc false r
      else match acc, numberedChar n r with
        | .error f, _ => readStringFrom (.error f) false r
        | .ok _, .error f => readStringFrom (.error f) false r
        | .ok cs, .ok (x, pair) => readStringFrom (.ok (x :: cs)) pair r
  | acc, _, '\\' :: 'u' :: r =>
    match readFourHex r with
    | .error f => broken acc f
    | .ok _ => broken acc .invalidEscape
  | acc, _, '\\' :: c :: r =>
    match shortEscape? c with
    | some x => readStringFrom (acc.map (x :: ·)) false r
    | none => broken acc .invalidEscape
  | acc, _, c :: r =>
    if c.toNat < 0x20 then broken acc .controlCharacter
    else readStringFrom (acc.map (c :: ·)) false r
where
  /-- A string that cannot be followed any further. -/
  broken (acc : StringSoFar) (f : Fault) : Token String × Option (List Char) :=
    (⟨match acc with
      | .error first => .error first
      | .ok _ => .error f, some f⟩, none)

/-- The rest of a string whose opening quote has been read. -/
def readString? (cs : List Char) : Token String × Option (List Char) :=
  readStringFrom (.ok []) false cs

/-! ## Numbers -/

/-- Digits of a number that count, and the power of ten that they are times. -/
structure Significand where
  digits : Nat
  exponent : Int

/-- Beyond this bound digits are not counted. -/
def digitBound : Nat := 0x10000000000000000

/-- The digits of the whole part: those that fit are counted, the others only shift. -/
def wholePart (ds : List Char) : Significand :=
  ds.foldl (fun s c =>
    let n := 10 * s.digits + Number.digitsValue [c]
    if s.exponent = 0 ∧ n < digitBound then ⟨n, 0⟩ else ⟨s.digits, s.exponent + 1⟩) ⟨0, 0⟩

/-- The digits of a fraction: from the first that does not fit they are dropped. -/
def fractionPart : Significand → List Char → Significand
  | s, [] => s
  | s, c :: r =>
    let n := 10 * s.digits + Number.digitsValue [c]
    if n < digitBound then fractionPart ⟨n, s.exponent - 1⟩ r else s

/-- A float divided by `10 ^ n`, in steps that stay in range. -/
def divideByPower : Nat → Float → Nat → Float
  | 0, x, _ => x
  | fuel + 1, x, n =>
    if n ≤ 308 then x / Number.ofDigits 1 n
    else if x == 0.0 then x
    else divideByPower fuel (x / Number.ofDigits 1 308) (n - 308)

/-- The float of a significand, none if it is too large: the digits as a float, then times or
divided by the power of ten. -/
def Significand.toFloat? (s : Significand) : Option Float :=
  let x := Float.ofNat s.digits
  if s.exponent < 0 then some (divideByPower (s.exponent.natAbs / 308 + 1) x s.exponent.natAbs)
  else if s.exponent ≤ 308 then
    let y := x * Number.ofDigits 1 s.exponent
    if Number.isFinite y then some y else none
  else if s.digits = 0 then some x
  else none

/-- A float with its sign, or the fault that it is too large. -/
def signedFloat (negative : Bool) (s : Significand) : Except Fault Number :=
  match s.toFloat? with
  | some x => .ok (.float (if negative then -x else x))
  | none => .error .numberOutOfRange

/-- Exponents are 32-bit numbers. -/
def exponentBound : Nat := 0x80000000

/-- A sum kept between the ends of the 32-bit numbers. -/
def clampExponent (e : Int) : Int := max (-0x80000000) (min e 0x7FFFFFFF)

/-- The number with an exponent of so many digits; one that is too large leaves zero or nothing. -/
def withExponent (negative : Bool) (s : Significand) (down : Bool) (ds : List Char) :
    Except Fault Number :=
  let e := Number.digitsValue ds
  if e < exponentBound then
    signedFloat negative
      ⟨s.digits, clampExponent (if down then s.exponent - e else s.exponent + e)⟩
  else if s.digits ≠ 0 && !down then .error .numberOutOfRange
  else .ok (.float (if negative then -0.0 else 0.0))

/-- A whole number: one of 64 bits, or a float. Minus zero is a float. -/
def wholeNumber (negative : Bool) (s : Significand) : Except Fault Number :=
  if s.exponent ≠ 0 then signedFloat negative s
  else if !negative then .ok (.int s.digits)
  else if s.digits = 0 ∨ 0x8000000000000000 < s.digits then .ok (.float (-Float.ofNat s.digits))
  else .ok (.int (-Int.ofNat s.digits))

/-- A number that lacks a digit where `r` begins. -/
def digitMissing (r : List Char) : Token Number × Option (List Char) :=
  (⟨.error (if r.isEmpty then .endInValue else .invalidNumber), some .invalidNumber⟩, none)

/-- The number whose exponent begins with `r`. -/
def readExponent (negative : Bool) (s : Significand) (r : List Char) :
    Token Number × Option (List Char) :=
  let (down, r) := Number.readSign r
  let (ds, r) := Number.spanDigits r
  if ds.isEmpty then digitMissing r else (⟨withExponent negative s down ds, none⟩, some r)

/-- What follows the digits of a number: an exponent or nothing. -/
def readScale (negative : Bool) (s : Significand) (plain : Except Fault Number) (r : List Char) :
    Token Number × Option (List Char) :=
  match r with
  | 'e' :: r => readExponent negative s r
  | 'E' :: r => readExponent negative s r
  | r => (⟨plain, none⟩, some r)

/-- A number; a minus sign has been read already if `negative`. -/
def readNumber? (negative : Bool) (cs : List Char) : Token Number × Option (List Char) :=
  let (ds, r) := Number.spanDigits cs
  match ds with
  | [] => digitMissing r
  | '0' :: _ :: _ => (⟨.error .invalidNumber, some .invalidNumber⟩, none)
  | ds =>
    let s := wholePart ds
    match r with
    | '.' :: r =>
      let (fs, r) := Number.spanDigits r
      if fs.isEmpty then digitMissing r
      else
        let s := fractionPart s fs
        readScale negative s (signedFloat negative s) r
    | r => readScale negative s (wholeNumber negative s) r

/-! ## Values -/

/-- The rest of a name whose first letter has been read. -/
def readName (rest : List Char) (t : Tree) (cs : List Char) : Tree × Option (List Char) :=
  match rest, cs with
  | [], cs => (t, some cs)
  | _ :: _, [] => (.broken .endInValue, none)
  | a :: r, c :: cs => if a == c then readName r t cs else (.broken .expectedName, none)

/-- A list or an object that stands inside `depth` others. -/
def nested (depth : Nat) (t : Tree) : Tree := if maxDepth ≤ depth then .tooDeep t else t

mutual

/-- A value inside `depth` lists and objects. -/
def readTree : Nat → Nat → List Char → Tree × Option (List Char)
  | 0, _, _ => (.broken .endInValue, none)
  | fuel + 1, depth, cs =>
    match skipSpace cs with
    | [] => (.broken .endInValue, none)
    | 'n' :: r => readName ['u', 'l', 'l'] .null r
    | 't' :: r => readName ['r', 'u', 'e'] (.bool true) r
    | 'f' :: r => readName ['a', 'l', 's', 'e'] (.bool false) r
    | '"' :: r =>
      let (s, rest) := readString? r
      (.string s, rest)
    | '-' :: r =>
      let (n, rest) := readNumber? true r
      (.number n, rest)
    | '[' :: r =>
      let ((items, ending), rest) := readItems fuel (depth + 1) true r
      (nested depth (.list items ending), rest)
    | '\x7b' :: r =>
      let ((members, ending), rest) := readMembers fuel (depth + 1) true r
      (nested depth (.object members ending), rest)
    | c :: r =>
      if c.isDigit then
        let (n, rest) := readNumber? false (c :: r)
        (.number n, rest)
      else (.broken .expectedValue, none)

/-- The items of a list up to its bracket; `first` says that no comma is needed. -/
def readItems : Nat → Nat → Bool → List Char → (List Tree × ListEnd) × Option (List Char)
  | 0, _, _, _ => (([], .endsHere), none)
  | fuel + 1, depth, first, cs =>
    match skipSpace cs with
    | [] => (([], .endsHere), none)
    | ']' :: r => (([], .closed), some r)
    | c :: r =>
      if first then readItem fuel depth (c :: r)
      else if c == ',' then
        match skipSpace r with
        | [] => (([], .commaThenEnd), none)
        | ']' :: _ => (([], .commaThenClosed), none)
        | r => readItem fuel depth r
      else (([], .noComma), none)

/-- An item and those behind it. -/
def readItem : Nat → Nat → List Char → (List Tree × ListEnd) × Option (List Char)
  | 0, _, _ => (([], .endsHere), none)
  | fuel + 1, depth, cs =>
    match readTree fuel depth cs with
    | (t, none) => (([t], .endsHere), none)
    | (t, some r) =>
      let ((ts, ending), rest) := readItems fuel depth false r
      ((t :: ts, ending), rest)

/-- The members of an object up to its brace; `first` says that no comma is needed. -/
def readMembers : Nat → Nat → Bool → List Char →
    (List (Token String × Tree) × ObjectEnd) × Option (List Char)
  | 0, _, _, _ => (([], .endsHere), none)
  | fuel + 1, depth, first, cs =>
    match skipSpace cs with
    | [] => (([], .endsHere), none)
    | '\x7d' :: r => (([], .closed), some r)
    | c :: r =>
      if first then
        if c == '"' then readMember fuel depth r else (([], .noKey), none)
      else if c == ',' then
        match skipSpace r with
        | [] => (([], .commaThenEnd), none)
        | '\x7d' :: _ => (([], .commaThenClosed), none)
        | '"' :: r => readMember fuel depth r
        | _ => (([], .noKey), none)
      else (([], .noComma), none)

/-- A member, the opening quote of whose key has been read, and those behind it. -/
def readMember : Nat → Nat → List Char →
    (List (Token String × Tree) × ObjectEnd) × Option (List Char)
  | 0, _, _ => (([], .endsHere), none)
  | fuel + 1, depth, cs =>
    match readString? cs with
    | (k, none) => (([(k, .broken .endInString)], .endsHere), none)
    | (k, some r) =>
      match skipSpace r with
      | [] => (([(k, .broken .endInObject)], .endsHere), none)
      | ':' :: r =>
        match readTree fuel depth r with
        | (t, none) => (([(k, t)], .endsHere), none)
        | (t, some r) =>
          let ((ms, ending), rest) := readMembers fuel depth false r
          (((k, t) :: ms, ending), rest)
      | _ => (([(k, .broken .expectedColon)], .endsHere), none)

end

/-- The outline of the value at the beginning of a text, and the text behind it. -/
def Tree.ofText (cs : List Char) : Tree × Option (List Char) := readTree (3 * cs.length + 3) 0 cs

/-- A whole text as the shape that `read` reads. -/
def readWhole {α : Type} (read : Tree → Except Error α) (text : String) : Except Error α :=
  let (t, rest) := Tree.ofText text.toList
  match read t with
  | .error e => .error e
  | .ok a =>
    match (rest.map skipSpace).getD [] with
    | [] => .ok a
    | _ => .error (.fault .trailingCharacters)

/-- A whole text as a value. -/
def Value.ofText (text : String) : Except Error Value := readWhole Tree.value text

end PolicyFields.Json
