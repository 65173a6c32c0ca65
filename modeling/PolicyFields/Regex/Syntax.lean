/-!
# Syntax of patterns

* `Flag`, `FlagChange` — the switches of a pattern.
* `Letter` — one written character.
* `ClassItem` — what stands between brackets.
* `Tree` — a pattern as written, and `Tree.depth`, how deep its parts are nested.
-/

namespace PolicyFields.Regex

/-- The switches of a pattern. -/
inductive Flag where
  | caseInsensitive
  | multiLine
  | dotMatchesNewLine
  | swapGreed
  | unicode
  | carriageReturns
  | ignoreBlanks
deriving DecidableEq, Repr

/-- A switch turned on or off. -/
structure FlagChange where
  flag : Flag
  on : Bool
deriving DecidableEq, Repr

/-- One character; `byte` says that it is written as the number of a byte. -/
structure Letter where
  char : Char
  byte : Bool
deriving DecidableEq, Repr

/-- Places between characters. -/
inductive Assertion where
  | lineStart
  | lineEnd
  | textStart
  | textEnd
  | wordBoundary
  | noWordBoundary
  | wordStart
  | wordEnd
  | wordStartHalf
  | wordEndHalf
deriving DecidableEq, Repr

/-- The classes with a letter of their own. -/
inductive ShortClass where
  | digit
  | space
  | word
deriving DecidableEq, Repr

/-- The classes of ASCII characters, which have names. -/
inductive NamedClass where
  | alnum | alpha | ascii | blank | cntrl | digit | graph | lower | print | punct | space | upper
  | word | xdigit
deriving DecidableEq, Repr

/-- How a property is asked for. -/
inductive PropertyQuery where
  | name (n : List Char)
  | nameAndValue (n v : List Char)
deriving DecidableEq, Repr

/-- How two sets are joined between brackets. -/
inductive SetOperator where
  | inter
  | diff
  | symmDiff
deriving DecidableEq, Repr

/-- What stands between brackets. -/
inductive ClassItem where
  | letter (l : Letter)
  | range (low high : Letter)
  | named (negated : Bool) (c : NamedClass)
  | short (negated : Bool) (c : ShortClass)
  | property (negated : Bool) (q : PropertyQuery)
  | bracketed (negated : Bool) (item : ClassItem)
  /-- Items side by side; an empty class has none. -/
  | union (items : List ClassItem)
  | operator (op : SetOperator) (left right : ClassItem)

/-- What a pair of parentheses does. -/
inductive GroupKind where
  | capture (index : Nat)
  | plain (changes : List FlagChange)

/-- A pattern as written. -/
inductive Tree where
  | empty
  | flags (changes : List FlagChange)
  | letter (l : Letter)
  | dot
  | assertion (a : Assertion)
  | short (negated : Bool) (c : ShortClass)
  | property (negated : Bool) (q : PropertyQuery)
  | bracketed (negated : Bool) (item : ClassItem)
  | repetition (least : Nat) (most : Option Nat) (greedy : Bool) (t : Tree)
  | group (kind : GroupKind) (t : Tree)
  | concat (ts : List Tree)
  | alternation (ts : List Tree)

/-- Items side by side; one alone stands for itself. -/
def ClassItem.ofItems : List ClassItem → ClassItem
  | [item] => item
  | items => union items

mutual

/-- How deep a class is nested. -/
def ClassItem.depth : ClassItem → Nat
  | bracketed _ item => item.depth + 1
  | union items => match items with
    | [] => 0
    | item :: r => max item.depth (ClassItem.depthOfAll r) + 1
  | operator _ left right => max left.depth right.depth + 1
  | letter _ | range _ _ | named _ _ | short _ _ | property _ _ => 0

/-- The greatest depth in a list. -/
def ClassItem.depthOfAll : List ClassItem → Nat
  | [] => 0
  | item :: r => max item.depth (ClassItem.depthOfAll r)

end

namespace Tree

/-- Patterns side by side; one alone stands for itself. -/
def ofConcat : List Tree → Tree
  | [] => empty
  | [t] => t
  | ts => concat ts

/-- Alternatives; one alone stands for itself. -/
def ofAlternatives : List Tree → Tree
  | [t] => t
  | ts => alternation ts

mutual

/-- How deep the parts of a pattern are nested. -/
def depth : Tree → Nat
  | bracketed _ item => item.depth + 1
  | repetition _ _ _ t => depth t + 1
  | group _ t => depth t + 1
  | concat ts => depthOfAll ts + 1
  | alternation ts => depthOfAll ts + 1
  | empty | flags _ | letter _ | dot | assertion _ | short _ _ | property _ _ => 0

/-- The greatest depth in a list. -/
def depthOfAll : List Tree → Nat
  | [] => 0
  | t :: r => max (depth t) (depthOfAll r)

end

end Tree

end PolicyFields.Regex
