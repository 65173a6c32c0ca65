import PolicyFields.Text.CategoryTable
import PolicyFields.Text.Runs
import PolicyFields.Text.ScriptTable

/-!
# Character properties

* `Category` — the thirty general categories; `category c` is that of `c`.
* `isWord`, `isAlphabetic`, … — properties derived from the category and from the
  short lists of further characters that the standard names for each.
* `script? c` — the code of the script of `c`.
-/

namespace PolicyFields.Text

/-- The general categories, by their two letters. -/
inductive Category where
  | lu | ll | lt | lm | lo | mn | mc | me | nd | nl | no | pc | pd | ps | pe | pi | pf | po
  | sm | sc | sk | so | zs | zl | zp | cc | cf | cs | co | cn
deriving DecidableEq, Repr

namespace Category

/-- The two letters of every category. -/
def letters : List (String × Category) :=
  [("Lu", lu), ("Ll", ll), ("Lt", lt), ("Lm", lm), ("Lo", lo), ("Mn", mn), ("Mc", mc), ("Me", me),
   ("Nd", nd), ("Nl", nl), ("No", no), ("Pc", pc), ("Pd", pd), ("Ps", ps), ("Pe", pe), ("Pi", pi),
   ("Pf", pf), ("Po", po), ("Sm", sm), ("Sc", sc), ("Sk", sk), ("So", so), ("Zs", zs), ("Zl", zl),
   ("Zp", zp), ("Cc", cc), ("Cf", cf), ("Cs", cs), ("Co", co), ("Cn", cn)]

/-- Letters: `Lu`, `Ll`, `Lt`, `Lm`, `Lo`. -/
def isLetter : Category → Bool
  | lu | ll | lt | lm | lo => true
  | _ => false

/-- Marks: `Mn`, `Mc`, `Me`. -/
def isMark : Category → Bool
  | mn | mc | me => true
  | _ => false

/-- Numbers: `Nd`, `Nl`, `No`. -/
def isNumber : Category → Bool
  | nd | nl | no => true
  | _ => false

/-- Separators: `Zs`, `Zl`, `Zp`. -/
def isSeparator : Category → Bool
  | zs | zl | zp => true
  | _ => false

/-- The rest: `Cc`, `Cf`, `Cs`, `Co`, `Cn`. -/
def isOther : Category → Bool
  | cc | cf | cs | co | cn => true
  | _ => false

end Category

/-- The runs of one general category. -/
def categoryRuns : Runs Category := .ofText (fun name => Category.letters.lookup name) categoryTable

/-- The general category of a character. -/
def category (c : Char) : Category := (categoryRuns.at? c.toNat).getD .cn

/-- The runs of one script. -/
def scriptRuns : Runs String := .ofText some scriptTable

/-- The code of the script of a character. -/
def script? (c : Char) : Option String := scriptRuns.at? c.toNat

/-- Circled and squared letters, which are symbols by category and letters by use. -/
def enclosedLetters : List (Nat × Nat) :=
  [(0x24B6, 0x24E9), (0x1F130, 0x1F149), (0x1F150, 0x1F169), (0x1F170, 0x1F189)]

/-- Characters of words: letters, marks, decimal digits, letter numbers, connecting punctuation,
enclosed letters and the two joiners. -/
def isWord (c : Char) : Bool :=
  let n := c.toNat
  if n < 0x80 then c.isAlphanum || c == '_'
  else
    let k := category c
    k.isLetter || k.isMark || k == .nd || k == .nl || k == .pc || n == 0x200C || n == 0x200D ||
      inRanges enclosedLetters n

/-- Marks and enclosed letters that count as alphabetic, as hexadecimal ranges. -/
def alphabeticMarksTable : String :=
  "345 5B0-5BD 5BF 5C1-5C2 5C4-5C5 5C7 610-61A 64B-657 659-65F 670 6D6-6DC 6E1-6E4 6E7-6E8 6ED
  711 730-73F 7A6-7B0 816-817 81B-823 825-827 829-82C 8D4-8DF 8E3-8E9 8F0-903 93A-93B 93E-94C
  94E-94F 955-957 962-963 981-983 9BE-9C4 9C7-9C8 9CB-9CC 9D7 9E2-9E3 A01-A03 A3E-A42 A47-A48
  A4B-A4C A51 A70-A71 A75 A81-A83 ABE-AC5 AC7-AC9 ACB-ACC AE2-AE3 AFA-AFC B01-B03 B3E-B44
  B47-B48 B4B-B4C B56-B57 B62-B63 B82 BBE-BC2 BC6-BC8 BCA-BCC BD7 C00-C04 C3E-C44 C46-C48
  C4A-C4C C55-C56 C62-C63 C81-C83 CBE-CC4 CC6-CC8 CCA-CCC CD5-CD6 CE2-CE3 CF3 D00-D03 D3E-D44
  D46-D48 D4A-D4C D57 D62-D63 D81-D83 DCF-DD4 DD6 DD8-DDF DF2-DF3 E31 E34-E3A E4D EB1 EB4-EB9
  EBB-EBC ECD F71-F83 F8D-F97 F99-FBC 102B-1036 1038 103B-103E 1056-1059 105E-1060 1062-1064
  1067-106D 1071-1074 1082-108D 108F 109A-109D 1712-1713 1732-1733 1752-1753 1772-1773
  17B6-17C8 1885-1886 18A9 1920-192B 1930-1938 1A17-1A1B 1A55-1A5E 1A61-1A74 1ABF-1AC0
  1ACC-1ACE 1B00-1B04 1B35-1B43 1B80-1B82 1BA1-1BA9 1BAC-1BAD 1BE7-1BF1 1C24-1C36 1DE7-1DF4
  24B6-24E9 2DE0-2DFF A674-A67B A69E-A69F A802 A80B A823-A827 A880-A881 A8B4-A8C3 A8C5 A8FF
  A926-A92A A947-A952 A980-A983 A9B4-A9BF A9E5 AA29-AA36 AA43 AA4C-AA4D AA7B-AA7D AAB0
  AAB2-AAB4 AAB7-AAB8 AABE AAEB-AAEF AAF5 ABE3-ABEA FB1E 10376-1037A 10A01-10A03 10A05-10A06
  10A0C-10A0F 10D24-10D27 10EAB-10EAC 11000-11002 11038-11045 11073-11074 11080-11082
  110B0-110B8 110C2 11100-11102 11127-11132 11145-11146 11180-11182 111B3-111BF 111CE-111CF
  1122C-11234 11237 1123E 11241 112DF-112E8 11300-11303 1133E-11344 11347-11348 1134B-1134C
  11357 11362-11363 11435-11441 11443-11445 114B0-114C1 115AF-115B5 115B8-115BE 115DC-115DD
  11630-1163E 11640 116AB-116B5 1171D-1172A 1182C-11838 11930-11935 11937-11938 1193B-1193C
  11940 11942 119D1-119D7 119DA-119DF 119E4 11A01-11A0A 11A35-11A39 11A3B-11A3E 11A51-11A5B
  11A8A-11A97 11C2F-11C36 11C38-11C3E 11C92-11CA7 11CA9-11CB6 11D31-11D36 11D3A 11D3C-11D3D
  11D3F-11D41 11D43 11D47 11D8A-11D8E 11D90-11D91 11D93-11D96 11EF3-11EF6 11F00-11F01 11F03
  11F34-11F3A 11F3E-11F40 16F4F 16F51-16F87 16F8F-16F92 16FF0-16FF1 1BC9E 1E000-1E006
  1E008-1E018 1E01B-1E021 1E023-1E024 1E026-1E02A 1E08F 1E947 1F130-1F149 1F150-1F169
  1F170-1F189"

/-- The ranges that a text lists, each written `FIRST-LAST` or as one code point. -/
def rangesOfText (text : String) : List (Nat × Nat) :=
  (words text.toList).filterMap fun item =>
    match splitAt '-' item with
    | [n] => some (hexValue n, hexValue n)
    | [a, b] => some (hexValue a, hexValue b)
    | _ => none

/-- Marks and enclosed letters that count as alphabetic. -/
def alphabeticMarks : List (Nat × Nat) := rangesOfText alphabeticMarksTable

/-- The property `Alphabetic`. -/
def isAlphabetic (c : Char) : Bool :=
  if c.toNat < 0x80 then c.isAlpha
  else
    let k := category c
    k.isLetter || k == .nl || inRanges alphabeticMarks c.toNat

/-- Alphabetic, or a number of any kind. -/
def isAlphanumeric (c : Char) : Bool := isAlphabetic c || (category c).isNumber

/-- The property `Lowercase`: small letters and the modifier letters and numerals that count as
such. -/
def isLowercase (c : Char) : Bool :=
  if c.toNat < 0x80 then c.isLower
  else category c == .ll || inRanges
    [(0xAA, 0xAA), (0xBA, 0xBA), (0x2B0, 0x2B8), (0x2C0, 0x2C1), (0x2E0, 0x2E4), (0x345, 0x345),
     (0x37A, 0x37A), (0x10FC, 0x10FC), (0x1D2C, 0x1D6A), (0x1D78, 0x1D78), (0x1D9B, 0x1DBF),
     (0x2071, 0x2071), (0x207F, 0x207F), (0x2090, 0x209C), (0x2170, 0x217F), (0x24D0, 0x24E9),
     (0x2C7C, 0x2C7D), (0xA69C, 0xA69D), (0xA770, 0xA770), (0xA7F2, 0xA7F4), (0xA7F8, 0xA7F9),
     (0xAB5C, 0xAB5F), (0xAB69, 0xAB69), (0x10780, 0x10780), (0x10783, 0x10785),
     (0x10787, 0x107B0), (0x107B2, 0x107BA), (0x1E030, 0x1E06D)] c.toNat

/-- The property `Uppercase`: capitals and the numerals and enclosed letters that count as such. -/
def isUppercase (c : Char) : Bool :=
  if c.toNat < 0x80 then c.isUpper
  else category c == .lu || inRanges
    [(0x2160, 0x216F), (0x24B6, 0x24CF), (0x1F130, 0x1F149), (0x1F150, 0x1F169),
     (0x1F170, 0x1F189)] c.toNat

/-- Characters with case: small letters, capitals and title case letters. -/
def isCased (c : Char) : Bool :=
  if c.toNat < 0x80 then c.isAlpha else isLowercase c || isUppercase c || category c == .lt

/-- Characters that are passed over when one looks for the cased neighbours of a letter. -/
def isCaseIgnorable (c : Char) : Bool :=
  if c.toNat < 0x80 then c == '\'' || c == '.' || c == ':' || c == '^' || c == '\x60'
  else
    let k := category c
    k == .mn || k == .me || k == .cf || k == .lm || k == .sk || inRanges
      [(0xB7, 0xB7), (0x387, 0x387), (0x55F, 0x55F), (0x5F4, 0x5F4), (0x2018, 0x2019),
       (0x2024, 0x2024), (0x2027, 0x2027), (0xFE13, 0xFE13), (0xFE52, 0xFE52), (0xFE55, 0xFE55),
       (0xFF07, 0xFF07), (0xFF0E, 0xFF0E), (0xFF1A, 0xFF1A)] c.toNat

/-- Characters that extend the one before them: marks that do not stand alone, and a list of
spacing ones. -/
def isGraphemeExtend (c : Char) : Bool :=
  if c.toNat < 0x80 then false
  else
    let k := category c
    k == .mn || k == .me || inRanges
      [(0x9BE, 0x9BE), (0x9D7, 0x9D7), (0xB3E, 0xB3E), (0xB57, 0xB57), (0xBBE, 0xBBE),
       (0xBD7, 0xBD7), (0xCC0, 0xCC0), (0xCC2, 0xCC2), (0xCC7, 0xCC8), (0xCCA, 0xCCB),
       (0xCD5, 0xCD6), (0xD3E, 0xD3E), (0xD57, 0xD57), (0xDCF, 0xDCF), (0xDDF, 0xDDF),
       (0x1715, 0x1715), (0x1734, 0x1734), (0x1B35, 0x1B35), (0x1B3B, 0x1B3B), (0x1B3D, 0x1B3D),
       (0x1B43, 0x1B44), (0x1BAA, 0x1BAA), (0x1BF2, 0x1BF3), (0x200C, 0x200C), (0x302E, 0x302F),
       (0xA953, 0xA953), (0xA9C0, 0xA9C0), (0xFF9E, 0xFF9F), (0x111C0, 0x111C0),
       (0x11235, 0x11235), (0x1133E, 0x1133E), (0x1134D, 0x1134D), (0x11357, 0x11357),
       (0x114B0, 0x114B0), (0x114BD, 0x114BD), (0x115AF, 0x115AF), (0x116B6, 0x116B6),
       (0x11930, 0x11930), (0x1193D, 0x1193D), (0x16FF0, 0x16FF1), (0x1D165, 0x1D166),
       (0x1D16D, 0x1D172), (0xE0020, 0xE007F)] c.toNat

/-- Characters that are written as themselves in quoted text: all but controls, formats, private
and unassigned code points, and separators other than the space. -/
def isPrintable (c : Char) : Bool :=
  if c.toNat < 0x80 then 0x20 ≤ c.toNat && c.toNat < 0x7F
  else
    let k := category c
    !(k.isOther || k.isSeparator)

end PolicyFields.Text
