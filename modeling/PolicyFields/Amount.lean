import PolicyFields.Number.Decimal
import PolicyFields.Text.Blank
import PolicyFields.Text.Case

/-!
# Written amounts

* `Amount.Separators` — which character groups thousands and which is the decimal point; `turkish`
  and `english` are the two conventions.
* `Amount.stripCurrency` — an amount without its currency suffix.
* `Amount.parse?` — the value of an amount, read by one convention or by the one that its
  separators suggest.
* `Amount.respell`, `Amount.respellWhole` — Turkish amounts with commas for points, between spaces.
-/

namespace PolicyFields.Amount

/-- The two separators of a written number. -/
structure Separators where
  thousands : Char
  decimal : Char
deriving DecidableEq, Repr

/-- Points group thousands, a comma separates decimals: `2.500.000,75`. -/
def turkish : Separators := ⟨'.', ','⟩

/-- Commas group thousands, a point separates decimals: `2,500,000.75`. -/
def english : Separators := ⟨',', '.'⟩

/-- How a number is to be read (`NumberFormat`). -/
inductive Style where
  | turkish
  | english
  /-- By the separators that occur. -/
  | auto
deriving DecidableEq, Repr

/-- The style that a configured flag asks for (`turkish_format`). -/
def Style.ofFlag : Option Bool → Style
  | some true => turkish
  | some false => english
  | none => auto

/-! ## Currency -/

/-- The currency suffixes, each before those that it ends with (`CURRENCY_SUFFIXES`). -/
def currencySuffixes : List (List Char) :=
  [".-TL", " TL", "-TL", "TL", ".-", "-"].map String.toList

/-- `cs` without `ending`, if it ends so. -/
def dropEnding? (ending cs : List Char) : Option (List Char) :=
  if ending.isSuffixOf cs then some (cs.take (cs.length - ending.length)) else none

/-- The trimmed characters without the first currency suffix that fits, trimmed again. -/
def stripCurrencyChars (cs : List Char) : List Char :=
  let trimmed := Text.trimChars cs
  match currencySuffixes.findSome? fun ending => dropEnding? ending trimmed with
  | some amount => Text.trimChars amount
  | none => trimmed

/-- `s` trimmed, without its currency suffix (`strip_currency`). -/
def stripCurrency (s : String) : String := String.ofList (stripCurrencyChars s.toList)

/-! ## Reading -/

/-- One or more decimal digits (`is_digits`). -/
def isDigits (cs : List Char) : Bool := !cs.isEmpty && cs.all Char.isDigit

/-- The parts before and behind the last `sep`. -/
def splitLast? (sep : Char) : List Char → Option (List Char × List Char)
  | [] => none
  | c :: r => match splitLast? sep r with
    | some (before, behind) => some (c :: before, behind)
    | none => if c == sep then some ([], r) else none

/-- The value of digits with the given separators (`parse_with`). The last decimal point counts;
before it the thousands separators may stand anywhere. -/
def parseWith? (seps : Separators) (cs : List Char) : Option Number.Decimal :=
  let read (whole : List Char) (fraction : List Char) : Option Number.Decimal :=
    let ds := whole.filter (· != seps.thousands)
    if isDigits ds then Number.Decimal.ofDigits? ds fraction else none
  match splitLast? seps.decimal cs with
  | none => read cs []
  | some (whole, fraction) => if isDigits fraction then read whole fraction else none

/-- Number of bytes of a text. -/
def byteCount (cs : List Char) : Nat := cs.foldl (fun n c => n + c.utf8Size) 0

/-- A single point that is not followed by a group of three separates decimals
(`implies_decimal`). -/
def impliesDecimal (cs : List Char) : Bool :=
  match splitLast? '.' cs with
  | some (before, behind) => !before.contains '.' && byteCount behind != 3
  | none => false

/-- The separators that the amount itself suggests (`parse_with_detected`): of both kinds the last
is the decimal point; a comma alone groups thousands, and so does a point alone unless it implies a
decimal. -/
def detect (cs : List Char) : Separators :=
  match splitLast? ',' cs, cs.contains '.' with
  | some (_, behind), true => if behind.contains '.' then english else turkish
  | none, true => if impliesDecimal cs then english else turkish
  | _, false => english

/-- The separators of a style. -/
def Style.separators (style : Style) (cs : List Char) : Separators :=
  match style with
  | turkish => Amount.turkish
  | english => Amount.english
  | auto => detect cs

/-- Words that stand for a missing amount. -/
def missingWords : List String := ["none", "nan", "null"]

/-- Whether nothing but blanks or a word for a missing amount is written. -/
def isMissing (s : String) : Bool :=
  let trimmed := Text.trim s
  trimmed.isEmpty || missingWords.contains (Text.lower trimmed)

/-- The value of a written amount (`parse_number`). -/
def parse? (style : Style) (s : String) : Option Number.Decimal :=
  if isMissing s then none
  else
    let cs := stripCurrencyChars (Text.trimChars s.toList)
    parseWith? (style.separators cs) cs

/-! ## Writing -/

/-- The characters between spaces, commas for points; nothing stays nothing. -/
def padded (cs : List Char) : List Char :=
  ' ' :: cs.map (fun c => if c == '.' then ',' else c) ++ [' ']

/-- An amount without zero decimals, commas for points, between spaces (`format_turkish_amount`). -/
def respellWhole (s : String) : String :=
  if s.isEmpty then ""
  else String.ofList (padded ((dropEnding? [',', '0', '0'] s.toList).getD s.toList))

/-- An amount with commas for points, between spaces (`format_simple_amount`). -/
def respell (s : String) : String :=
  if s.isEmpty then "" else String.ofList (padded s.toList)

end PolicyFields.Amount
