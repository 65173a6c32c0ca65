import PolicyFields.Regex.CharSet
import PolicyFields.Text.Blank

/-!
# Names of properties

* `normalize` — names are compared without case, blanks, hyphens, underscores and a leading `is`.
* `propertyNamed?` — the property that a name stands for: a property proper, a general category or a
  script, in this order.
* `propertyWith?` — the property that a name and a value stand for.

The tables are not complete. Categories and scripts have all their names; of the properties proper
only those of `properNames` are known, so that `Dash`, `Emoji`, `Math`, `Ideographic`, `ID_Start`,
`XID_Continue` and the like are refused as unknown, as are `Age` and the break properties with their
values; and script extensions are read as scripts. No theorem rests on what the tables hold.
-/

namespace PolicyFields.Regex

open Text (Category)

/-- The form in which names are compared. -/
def normalize (name : List Char) : List Char :=
  let plain (cs : List Char) : List Char :=
    (cs.filter fun c => c.toNat < 0x80 && c != ' ' && c != '_' && c != '-').map Char.toLower
  match name with
  | i :: s :: r =>
    if i.toLower == 'i' && s.toLower == 's' then
      match plain r with
      | ['c'] => ['i', 's', 'c']
      | cs => cs
    else plain (i :: s :: r)
  | cs => plain cs

/-- The general categories and their groups, by every name. -/
def categoryNames : List (String × List Category) :=
  let letter : List Category := [.lu, .ll, .lt, .lm, .lo]
  let mark : List Category := [.mn, .mc, .me]
  let number : List Category := [.nd, .nl, .no]
  let punctuation : List Category := [.pc, .pd, .ps, .pe, .pi, .pf, .po]
  let symbol : List Category := [.sm, .sc, .sk, .so]
  let separator : List Category := [.zs, .zl, .zp]
  let other : List Category := [.cc, .cf, .co, .cn]
  let cased : List Category := [.lu, .ll, .lt]
  [("lu", [.lu]), ("uppercaseletter", [.lu]), ("ll", [.ll]), ("lowercaseletter", [.ll]),
   ("lt", [.lt]), ("titlecaseletter", [.lt]), ("lm", [.lm]), ("modifierletter", [.lm]),
   ("lo", [.lo]), ("otherletter", [.lo]), ("lc", cased), ("casedletter", cased),
   ("l", letter), ("letter", letter),
   ("mn", [.mn]), ("nonspacingmark", [.mn]), ("mc", [.mc]), ("spacingmark", [.mc]),
   ("me", [.me]), ("enclosingmark", [.me]), ("m", mark), ("mark", mark), ("combiningmark", mark),
   ("nd", [.nd]), ("decimalnumber", [.nd]), ("digit", [.nd]), ("nl", [.nl]),
   ("letternumber", [.nl]), ("no", [.no]), ("othernumber", [.no]), ("n", number),
   ("number", number),
   ("pc", [.pc]), ("connectorpunctuation", [.pc]), ("pd", [.pd]), ("dashpunctuation", [.pd]),
   ("ps", [.ps]), ("openpunctuation", [.ps]), ("pe", [.pe]), ("closepunctuation", [.pe]),
   ("pi", [.pi]), ("initialpunctuation", [.pi]), ("pf", [.pf]), ("finalpunctuation", [.pf]),
   ("po", [.po]), ("otherpunctuation", [.po]), ("p", punctuation), ("punctuation", punctuation),
   ("punct", punctuation),
   ("sm", [.sm]), ("mathsymbol", [.sm]), ("sc", [.sc]), ("currencysymbol", [.sc]), ("sk", [.sk]),
   ("modifiersymbol", [.sk]), ("so", [.so]), ("othersymbol", [.so]), ("s", symbol),
   ("symbol", symbol),
   ("zs", [.zs]), ("spaceseparator", [.zs]), ("zl", [.zl]), ("lineseparator", [.zl]),
   ("zp", [.zp]), ("paragraphseparator", [.zp]), ("z", separator), ("separator", separator),
   ("cc", [.cc]), ("control", [.cc]), ("cntrl", [.cc]), ("cf", [.cf]), ("format", [.cf]),
   ("co", [.co]), ("privateuse", [.co]), ("cn", [.cn]), ("unassigned", [.cn]), ("c", other),
   ("other", other)]

/-- The property that the name of a general category stands for. -/
def categoryNamed? (name : String) : Option CharSet :=
  if name == "any" then some (.property .any)
  else if name == "ascii" then some (.property .ascii)
  else if name == "assigned" then some (.compl (.property (.category [.cn])))
  else (categoryNames.lookup name).map fun ks => .property (.category ks)

/-- The codes of the scripts, by every name. -/
def scriptCodes : List (String × String) :=
  (Text.words Text.scriptNames.toList).flatMap fun item =>
    match Text.splitAt ':' item with
    | code :: names =>
      (code :: names).map fun n => (String.ofList (normalize n), String.ofList code)
    | [] => []

/-- The property that the name of a script stands for. -/
def scriptNamed? (name : String) : Option CharSet :=
  (scriptCodes.lookup name).map fun code => .property (.script code)

/-- The properties proper that are known, by every name. -/
def properNames : List (String × CharSet) :=
  let of (p : Property) (names : List String) : List (String × CharSet) :=
    names.map fun n => (n, .property p)
  of .alphabetic ["alphabetic", "alpha"] ++ of .lowercase ["lowercase", "lower"] ++
    of .uppercase ["uppercase", "upper"] ++ of .space ["whitespace", "wspace", "space"] ++
    of .cased ["cased"] ++ of .caseIgnorable ["caseignorable", "ci"] ++
    of .graphemeExtend ["graphemeextend", "grext"] ++ of .hexDigit ["hexdigit", "hex"] ++
    ["asciihexdigit", "ahex"].map fun n =>
      (n, .ranges [(0x30, 0x39), (0x41, 0x46), (0x61, 0x66)])

/-- The property that a name stands for, if it is in the tables; other properties are refused as if
there were none. -/
def propertyNamed? (name : List Char) : Option CharSet :=
  let n := String.ofList (normalize name)
  match properNames.lookup n with
  | some s => some s
  | none => match categoryNamed? n with
    | some s => some s
    | none => scriptNamed? n

/-- The property that a name and a value stand for: a category or a script, which also stands for
its extensions. -/
def propertyWith? (name value : List Char) : Option CharSet :=
  let n := String.ofList (normalize name)
  let v := String.ofList (normalize value)
  if n == "gc" || n == "generalcategory" then categoryNamed? v
  else if n == "sc" || n == "script" || n == "scx" || n == "scriptextensions" then scriptNamed? v
  else none

end PolicyFields.Regex
