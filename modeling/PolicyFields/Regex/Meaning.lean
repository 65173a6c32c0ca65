import PolicyFields.Regex.Pattern
import PolicyFields.Regex.Property
import PolicyFields.Regex.Syntax

/-!
# The meaning of a written pattern

Switches hold from where they are set to the end of the group, across alternatives. `Tree.pattern?`
works them into the parts of a pattern; it fails where a property does not exist, and where, with
Unicode off, something else than characters of ASCII would match.
-/

namespace PolicyFields.Regex

/-- The switches that hold at a place of a pattern. -/
structure Switches where
  caseInsensitive : Bool
  multiLine : Bool
  dotMatchesNewLine : Bool
  swapGreed : Bool
  unicode : Bool
  carriageReturns : Bool
deriving DecidableEq, Repr

namespace Switches

/-- One switch changed. -/
def change (s : Switches) (c : FlagChange) : Switches :=
  match c.flag with
  | .caseInsensitive => { s with caseInsensitive := c.on }
  | .multiLine => { s with multiLine := c.on }
  | .dotMatchesNewLine => { s with dotMatchesNewLine := c.on }
  | .swapGreed => { s with swapGreed := c.on }
  | .unicode => { s with unicode := c.on }
  | .carriageReturns => { s with carriageReturns := c.on }
  | .ignoreBlanks => s

/-- Several switches changed, one after the other. -/
def changeAll (s : Switches) (cs : List FlagChange) : Switches := cs.foldl change s

/-- A set, without regard to case if so asked. -/
def fold (s : Switches) (set : CharSet) : CharSet :=
  if !s.caseInsensitive then set else if s.unicode then .folded set else .foldedAscii set

/-- A set or its opposite. -/
def oppositeIf (negated : Bool) (set : CharSet) : CharSet := if negated then .compl set else set

/-- A set of characters; without Unicode a set of bytes, which has to stay within ASCII. -/
def admit? (s : Switches) (set : CharSet) : Option CharSet :=
  if s.unicode then some set else set.asciiOnly?

end Switches

/-! ## Classes -/

/-- The ranges of a named class. -/
def NamedClass.ranges : NamedClass → List (Nat × Nat)
  | alnum => [(0x30, 0x39), (0x41, 0x5A), (0x61, 0x7A)]
  | alpha => [(0x41, 0x5A), (0x61, 0x7A)]
  | ascii => [(0, 0x7F)]
  | blank => [(9, 9), (0x20, 0x20)]
  | cntrl => [(0, 0x1F), (0x7F, 0x7F)]
  | digit => [(0x30, 0x39)]
  | graph => [(0x21, 0x7E)]
  | lower => [(0x61, 0x7A)]
  | print => [(0x20, 0x7E)]
  | punct => [(0x21, 0x2F), (0x3A, 0x40), (0x5B, 0x60), (0x7B, 0x7E)]
  | space => [(9, 13), (0x20, 0x20)]
  | upper => [(0x41, 0x5A)]
  | word => [(0x30, 0x39), (0x41, 0x5A), (0x5F, 0x5F), (0x61, 0x7A)]
  | xdigit => [(0x30, 0x39), (0x41, 0x46), (0x61, 0x66)]

/-- The set of a class with a letter of its own. -/
def ShortClass.set (c : ShortClass) (unicode : Bool) : CharSet :=
  if unicode then
    match c with
    | digit => .property (.category [.nd])
    | space => .property .space
    | word => .property .word
  else
    match c with
    | digit => .ranges NamedClass.digit.ranges
    | space => .ranges NamedClass.space.ranges
    | word => .ranges NamedClass.word.ranges

namespace Switches

/-- The set of a class with a letter of its own; such classes do not tell cases apart. -/
def shortSet? (s : Switches) (negated : Bool) (c : ShortClass) : Option CharSet :=
  s.admit? (oppositeIf negated (c.set s.unicode))

/-- The set of a named class. -/
def namedSet? (s : Switches) (negated : Bool) (c : NamedClass) : Option CharSet :=
  s.admit? (oppositeIf negated (s.fold (.ranges c.ranges)))

/-- The set of a property. -/
def propertySet? (s : Switches) (negated : Bool) (q : PropertyQuery) : Option CharSet :=
  if s.unicode then
    (match q with
      | .name n => propertyNamed? n
      | .nameAndValue n v => propertyWith? n v).map fun set => oppositeIf negated (s.fold set)
  else none

/-- The characters from one to another, in a class. -/
def rangeSet? (s : Switches) (low high : Letter) : Option CharSet :=
  if s.unicode || (low.char.toNat < 0x80 && high.char.toNat < 0x80) then
    some (.range low.char high.char)
  else none

/-- Two sets joined. -/
def join (s : Switches) (op : SetOperator) (a b : CharSet) : CharSet :=
  match op with
  | .inter => .inter (s.fold a) (s.fold b)
  | .diff => .diff (s.fold a) (s.fold b)
  | .symmDiff => .symmDiff (s.fold a) (s.fold b)

mutual

/-- The set of an item of a class. -/
def itemSet? (s : Switches) : ClassItem → Option CharSet
  | .letter l => s.rangeSet? l l
  | .range low high => s.rangeSet? low high
  | .named negated c => s.namedSet? negated c
  | .short negated c => s.shortSet? negated c
  | .property negated q => s.propertySet? negated q
  | .bracketed negated item => (itemSet? s item).bind fun set =>
      s.admit? (oppositeIf negated (s.fold set))
  | .union items => unionSet? s items
  | .operator op left right => (itemSet? s left).bind fun a =>
      (itemSet? s right).map fun b => s.join op a b

/-- The set of items side by side. -/
def unionSet? (s : Switches) : List ClassItem → Option CharSet
  | [] => some .none
  | item :: r => (itemSet? s item).bind fun a => (unionSet? s r).map fun b => .union a b

end

/-- The set of a class in brackets. -/
def bracketedSet? (s : Switches) (negated : Bool) (item : ClassItem) : Option CharSet :=
  s.itemSet? (.bracketed negated item)

/-- The set of one written character. -/
def letterSet? (s : Switches) (l : Letter) : Option CharSet :=
  if s.unicode then some (if s.caseInsensitive then .variants l.char else .single l.char)
  else if l.byte && 0x80 ≤ l.char.toNat then none
  else some (if s.caseInsensitive && l.char.isAlpha then .variantsAscii l.char else .single l.char)

/-- The set of the dot. -/
def dotSet? (s : Switches) : Option CharSet :=
  if !s.unicode then none
  else if s.dotMatchesNewLine then some (.property .any)
  else if s.carriageReturns then some (.compl (.ranges [(0xA, 0xA), (0xD, 0xD)]))
  else some (.compl (.single '\n'))

/-- The condition that an assertion stands for. -/
def look (s : Switches) (a : Assertion) : Look :=
  match a with
  | .textStart => .textStart
  | .textEnd => .textEnd
  | .lineStart =>
    if !s.multiLine then .textStart else if s.carriageReturns then .anyLineStart else .lineStart
  | .lineEnd =>
    if !s.multiLine then .textEnd else if s.carriageReturns then .anyLineEnd else .lineEnd
  | .wordBoundary => .word .boundary !s.unicode
  | .noWordBoundary => .word .noBoundary !s.unicode
  | .wordStart => .word .start !s.unicode
  | .wordEnd => .word .stop !s.unicode
  | .wordStartHalf => .word .startHalf !s.unicode
  | .wordEndHalf => .word .stopHalf !s.unicode

end Switches

/-! ## Patterns -/

namespace Tree

mutual

/-- The pattern that a tree means under some switches, and the switches behind it. -/
def pattern? (s : Switches) : Tree → Option (Pattern × Switches)
  | empty => some (.empty, s)
  | flags changes => some (.empty, s.changeAll changes)
  | letter l => (s.letterSet? l).map fun set => (.set set, s)
  | dot => s.dotSet?.map fun set => (.set set, s)
  | assertion a => some (.look (s.look a), s)
  | short negated c => (s.shortSet? negated c).map fun set => (.set set, s)
  | property negated q => (s.propertySet? negated q).map fun set => (.set set, s)
  | bracketed negated item => (s.bracketedSet? negated item).map fun set => (.set set, s)
  | repetition least most greedy t => (pattern? s t).map fun (p, s) =>
      (p.times least most (greedy != s.swapGreed), s)
  | group (.capture index) t => (pattern? s t).map fun (p, _) => (.group index p, s)
  | group (.plain changes) t => (pattern? (s.changeAll changes) t).map fun (p, _) => (p, s)
  | concat ts => concatPattern? s ts
  | alternation ts => alternativesPattern? s ts

/-- The pattern of trees side by side. -/
def concatPattern? (s : Switches) : List Tree → Option (Pattern × Switches)
  | [] => some (.empty, s)
  | t :: r => (pattern? s t).bind fun (p, s) =>
      match r with
      | [] => some (p, s)
      | t' :: r' => (concatPattern? s (t' :: r')).map fun (q, s) => (.concat p q, s)

/-- The pattern of alternatives. -/
def alternativesPattern? (s : Switches) : List Tree → Option (Pattern × Switches)
  | [] => some (.empty, s)
  | t :: r => (pattern? s t).bind fun (p, s) =>
      match r with
      | [] => some (p, s)
      | t' :: r' => (alternativesPattern? s (t' :: r')).map fun (q, s) => (.alternate p q, s)

end

end Tree

end PolicyFields.Regex
