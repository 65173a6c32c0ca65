import PolicyFields.Text.Case
import PolicyFields.Text.Runs

/-!
# Recognizing companies

* `Company` — an insurer and the names under which documents speak of it, in small letters.
* `scores`, `detect?` — how often the names of each company occur in a text, and the company whose
  names occur most often.
* `ofDirectoryName` — the company that the name of a directory stands for.
-/

namespace PolicyFields

/-- An insurer and its names in small letters. -/
structure Company where
  id : String
  names : List String
deriving DecidableEq, Repr

namespace Company

/-- The insurers that are known (`COMPANY_NAMES`). -/
def known : List Company :=
  [⟨"ak", ["ak sigorta", "ak insurance", "ak sig"]⟩,
   ⟨"allianz", ["allianz", "allianz sigorta"]⟩,
   ⟨"anadolu", ["anadolu sigorta", "anadolu sig"]⟩,
   ⟨"ankara", ["ankara sigorta", "ankara sig"]⟩,
   ⟨"axa", ["axa", "axa sigorta"]⟩,
   ⟨"doga", ["doğa sigorta", "doga sigorta"]⟩,
   ⟨"gulf", ["gulf sigorta", "gulf sig", "gig sigorta", "gig sig"]⟩,
   ⟨"hdi", ["hdi sigorta", "hdi sig"]⟩,
   ⟨"mapfre", ["mapfre", "mapfre sigorta"]⟩,
   ⟨"mg", ["mg sigorta", "mg sig", "magdeburger sigorta", "magdeburger"]⟩,
   ⟨"neova", ["neova sigorta", "neova sig"]⟩,
   ⟨"orient", ["orient sigorta", "orient sig"]⟩,
   ⟨"Quick", ["quick sigorta", "quick sig"]⟩,
   ⟨"ray", ["ray sigorta", "ray sig"]⟩,
   ⟨"sompo", ["sompo sigorta", "sompo sig"]⟩,
   ⟨"turkiye", ["türkiye sigorta", "turkiye sigorta"]⟩,
   ⟨"turkiyekatilim", ["türkiye katılım", "turkiye katilim"]⟩,
   ⟨"turknippon", ["türk nippon", "turk nippon"]⟩,
   ⟨"unico", ["unico sigorta", "unico sig"]⟩,
   ⟨"zurich", ["zurich", "zurich sigorta"]⟩]

/-- A company whose names may be written in any case (`with_companies`). -/
def make (id : String) (names : List String) : Company := ⟨id, names.map Text.lower⟩

/-- How often `needle` occurs in a text, from left to right without overlap; `wait` characters of
the last occurrence are still to be passed. The empty text occurs at every place. -/
def occurrencesFrom (needle : List Char) : Nat → List Char → Nat
  | _, [] => if needle.isEmpty then 1 else 0
  | wait + 1, _ :: r => occurrencesFrom needle wait r
  | 0, c :: r =>
    if needle.isPrefixOf (c :: r) then 1 + occurrencesFrom needle (needle.length - 1) r
    else occurrencesFrom needle 0 r

/-- How often `needle` occurs in a text. -/
def occurrences (needle cs : List Char) : Nat := occurrencesFrom needle 0 cs

/-- How often the names of a company occur in a text in small letters. -/
def score (c : Company) (lowered : List Char) : Nat :=
  c.names.foldl (fun n name => n + occurrences name.toList lowered) 0

/-- How often the names of each company occur in a text (`scores`). -/
def scores (cs : List Company) (text : String) : List (String × Nat) :=
  let lowered := Text.lowerChars text.toList
  cs.map fun c => (c.id, c.score lowered)

/-- The first of the greatest positive scores, given the best so far. -/
def bestOf : Option (String × Nat) → List (String × Nat) → Option (String × Nat)
  | best, [] => best
  | none, s :: r => bestOf (if 0 < s.2 then some s else none) r
  | some best, s :: r => bestOf (some (if best.2 < s.2 then s else best)) r

/-- The company whose names occur most often, the first of several (`detect`); none if no name
occurs. -/
def detect? (cs : List Company) (text : String) : Option String :=
  (bestOf none (scores cs text)).map Prod.fst

/-- The characters before the mark that the names of company directories bear. -/
def beforeMark : List Char → List Char
  | '_' :: 'E' :: _ => []
  | [] => []
  | c :: r => c :: beforeMark r

/-- The company that the name of a directory stands for (`company_from_dir_name`): `ak_E` for
`ak`. -/
def ofDirectoryName (name : String) : String := String.ofList (beforeMark name.toList)

end Company

end PolicyFields
