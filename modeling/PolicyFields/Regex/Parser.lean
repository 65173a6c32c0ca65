import PolicyFields.Regex.Syntax
import PolicyFields.Text.Blank
import PolicyFields.Text.Category
import PolicyFields.Text.Runs

/-!
# Reading patterns

`Tree.ofPattern?` reads a pattern. Every reading function takes the characters that are left and
gives back those behind what it has read; none means that the pattern is malformed. Where a pattern
may hold blanks and comments, `skip` passes over them.
-/

namespace PolicyFields.Regex

open Text (isBlank dropBlanks hexDigit?)

/-- Patterns nested deeper than this are refused. -/
def maxDepth : Nat := 250

/-! ## Blanks and comments -/

/-- The characters behind blanks and comments. -/
def skipComments : Bool → List Char → List Char
  | _, [] => []
  | inComment, c :: r =>
    if inComment then skipComments (c != '\n') r
    else if isBlank c then skipComments false r
    else if c == '#' then skipComments true r
    else c :: r

/-- The characters behind blanks and comments, where those are passed over. -/
def skip (blanks : Bool) (cs : List Char) : List Char :=
  if blanks then skipComments false cs else cs

/-- The character that follows, behind blanks and the mark of a comment where those are passed
over. -/
def ahead? (blanks : Bool) (cs : List Char) : Option Char :=
  if blanks then
    match dropBlanks cs with
    | '#' :: r => (dropBlanks r).head?
    | r => r.head?
  else cs.head?

/-! ## Numbers -/

/-- The decimal digits in front, with blanks between them where those are passed over. -/
def takeDigits (blanks : Bool) : Nat → List Char → List Char × List Char
  | 0, cs => ([], cs)
  | fuel + 1, cs => match cs with
    | c :: r =>
      if c.isDigit then
        let (ds, rest) := takeDigits blanks fuel (skip blanks r)
        (c :: ds, rest)
      else ([], c :: r)
    | [] => ([], [])

/-- A number of 32 bits with blanks around it. -/
def readCount? (blanks : Bool) (cs : List Char) : Option (Nat × List Char) :=
  let (ds, r) := takeDigits blanks cs.length (dropBlanks cs)
  let n := ds.foldl (fun n c => 10 * n + (c.toNat - '0'.toNat)) 0
  if ds.isEmpty || 0x100000000 ≤ n then none else some (n, dropBlanks r)

/-- The character with a number. -/
def charNumbered? (n : Nat) : Option Char := if n.isValidChar then some (Char.ofNat n) else none

/-- So many hexadecimal digits. -/
def readHexDigits? (blanks : Bool) : Nat → Nat → List Char → Option (Nat × List Char)
  | 0, n, cs => some (n, cs)
  | more + 1, n, c :: r => (hexDigit? c).bind fun d =>
      readHexDigits? blanks more (16 * n + d) (skip blanks r)
  | _ + 1, _, [] => none

/-- Hexadecimal digits up to a closing brace, at least one unless `begun`. -/
def readHexBraces? (blanks : Bool) : Nat → Bool → Nat → List Char → Option (Nat × List Char)
  | 0, _, _, _ => none
  | fuel + 1, begun, n, cs => match skip blanks cs with
    | [] => none
    | '\x7d' :: r => if begun then some (n, skip blanks r) else none
    | c :: r => (hexDigit? c).bind fun d => readHexBraces? blanks fuel true (16 * n + d) r

/-- The character written by its number, `digits` being how many digits it has without braces. -/
def readHex? (blanks : Bool) (digits : Nat) (cs : List Char) : Option (Letter × List Char) :=
  match skip blanks cs with
  | '\x7b' :: r => do
    let (n, rest) ← readHexBraces? blanks (r.length + 1) false 0 r
    return (⟨← charNumbered? n, false⟩, rest)
  | r => do
    let (n, rest) ← readHexDigits? blanks digits 0 r
    return (⟨← charNumbered? n, digits == 2⟩, rest)

/-! ## Properties -/

/-- The characters up to a closing brace. -/
def takeBraces? (blanks : Bool) : Nat → List Char → Option (List Char × List Char)
  | 0, _ => none
  | fuel + 1, cs => match skip blanks cs with
    | [] => none
    | '\x7d' :: r => some ([], r)
    | c :: r => (takeBraces? blanks fuel r).map fun (name, rest) => (c :: name, rest)

/-- The parts before and behind the first place where `mark` stands. -/
def splitMark? (mark : List Char) : List Char → Option (List Char × List Char)
  | [] => none
  | c :: r =>
    if mark.isPrefixOf (c :: r) then some ([], (c :: r).drop mark.length)
    else (splitMark? mark r).map fun (before, behind) => (c :: before, behind)

/-- What the name of a property asks for, and whether for its opposite. -/
def propertyQuery (name : List Char) : Bool × PropertyQuery :=
  match splitMark? ['!', '='] name with
  | some (n, v) => (true, .nameAndValue n v)
  | none => match splitMark? [':'] name with
    | some (n, v) => (false, .nameAndValue n v)
    | none => match splitMark? ['='] name with
      | some (n, v) => (false, .nameAndValue n v)
      | none => (false, .name name)

/-- A property, one letter or a name in braces. -/
def readProperty? (blanks negated : Bool) (cs : List Char) : Option (Tree × List Char) :=
  match skip blanks cs with
  | [] => none
  | '\x7b' :: r => (takeBraces? blanks (r.length + 1) r).map fun (name, rest) =>
      let (opposite, query) := propertyQuery name
      (.property (negated != opposite) query, rest)
  | '\\' :: _ => none
  | c :: r => some (.property negated (.name [c]), skip blanks r)

/-! ## Escapes -/

/-- Characters that a backslash makes plain. -/
def isPlainEscape (c : Char) : Bool :=
  c.toNat < 0x80 && !c.isAlphanum && c != '<' && c != '>'

/-- The letters of the name of a kind of word boundary, and what follows them. -/
def takeBoundaryName (blanks : Bool) : Nat → List Char → List Char × List Char
  | 0, cs => ([], cs)
  | fuel + 1, cs => match cs with
    | c :: r =>
      if c.isAlpha || c == '-' then
        let (name, rest) := takeBoundaryName blanks fuel (skip blanks r)
        (c :: name, rest)
      else ([], c :: r)
    | [] => ([], [])

/-- The kinds of word boundaries that have names. -/
def boundaryNames : List (String × Assertion) :=
  [("start", .wordStart), ("end", .wordEnd), ("start-half", .wordStartHalf),
   ("end-half", .wordEndHalf)]

/-- A word boundary; a name in braces may follow. -/
def readBoundary? (blanks : Bool) (cs : List Char) : Option (Tree × List Char) :=
  match cs with
  | '\x7b' :: r => match skip blanks r with
    | [] => none
    | c :: r' =>
      if c.isAlpha || c == '-' then
        match takeBoundaryName blanks (r'.length + 1) (c :: r') with
        | (name, '\x7d' :: rest) =>
          (boundaryNames.lookup (String.ofList name)).map fun a => (.assertion a, rest)
        | _ => none
      else some (.assertion .wordBoundary, cs)
  | cs => some (.assertion .wordBoundary, cs)

/-- A plain character as a pattern. -/
def letterTree (c : Char) : Tree := .letter ⟨c, false⟩

/-- What follows a backslash. -/
def readEscape? (blanks : Bool) (cs : List Char) : Option (Tree × List Char) :=
  match cs with
  | [] => none
  | c :: r => match c with
    | 'x' => (readHex? blanks 2 r).map fun (l, rest) => (.letter l, rest)
    | 'u' => (readHex? blanks 4 r).map fun (l, rest) => (.letter l, rest)
    | 'U' => (readHex? blanks 8 r).map fun (l, rest) => (.letter l, rest)
    | 'p' => readProperty? blanks false r
    | 'P' => readProperty? blanks true r
    | 'd' => some (.short false .digit, r)
    | 'D' => some (.short true .digit, r)
    | 's' => some (.short false .space, r)
    | 'S' => some (.short true .space, r)
    | 'w' => some (.short false .word, r)
    | 'W' => some (.short true .word, r)
    | 'a' => some (letterTree '\x07', r)
    | 'f' => some (letterTree '\x0c', r)
    | 't' => some (letterTree '\t', r)
    | 'n' => some (letterTree '\n', r)
    | 'r' => some (letterTree '\r', r)
    | 'v' => some (letterTree '\x0b', r)
    | 'A' => some (.assertion .textStart, r)
    | 'z' => some (.assertion .textEnd, r)
    | 'b' => readBoundary? blanks r
    | 'B' => some (.assertion .noWordBoundary, r)
    | '<' => some (.assertion .wordStart, r)
    | '>' => some (.assertion .wordEnd, r)
    | c => if isPlainEscape c then some (letterTree c, r) else none

/-! ## Classes -/

/-- The classes of ASCII characters by name. -/
def namedClasses : List (String × NamedClass) :=
  [("alnum", .alnum), ("alpha", .alpha), ("ascii", .ascii), ("blank", .blank), ("cntrl", .cntrl),
   ("digit", .digit), ("graph", .graph), ("lower", .lower), ("print", .print), ("punct", .punct),
   ("space", .space), ("upper", .upper), ("word", .word), ("xdigit", .xdigit)]

/-- A named class, whose opening bracket has been read, if there is one. -/
def readNamed? (cs : List Char) : Option (ClassItem × List Char) :=
  match cs with
  | ':' :: r =>
    let (negated, r) := match r with
      | '^' :: r => (true, r)
      | r => (false, r)
    match splitMark? [':'] r with
    | some (name, ']' :: rest) =>
      (namedClasses.lookup (String.ofList name)).map fun c => (.named negated c, rest)
    | _ => none
  | _ => none

/-- One member of a class. -/
def readMember? (blanks : Bool) (cs : List Char) : Option (Tree × List Char) :=
  match cs with
  | [] => none
  | '\\' :: r => readEscape? blanks r
  | c :: r => some (letterTree c, r)

/-- A member as an item. -/
def itemOf? : Tree → Option ClassItem
  | .letter l => some (.letter l)
  | .short negated c => some (.short negated c)
  | .property negated q => some (.property negated q)
  | _ => none

/-- A member or a range of characters. -/
def readRange? (blanks : Bool) (cs : List Char) : Option (ClassItem × List Char) := do
  let (low, r) ← readMember? blanks cs
  match skip blanks r with
  | [] => none
  | '-' :: behind =>
    if ahead? blanks behind == some ']' || ahead? blanks behind == some '-' then
      return (← itemOf? low, '-' :: behind)
    else
      let (high, rest) ← readMember? blanks (skip blanks behind)
      match low, high with
      | .letter a, .letter b => if a.char ≤ b.char then some (.range a b, rest) else none
      | _, _ => none
  | rest => return (← itemOf? low, rest)

/-- The hyphens with which a class may begin. -/
def takeHyphens (blanks : Bool) : Nat → List Char → List ClassItem × List Char
  | 0, cs => ([], cs)
  | fuel + 1, cs => match cs with
    | '-' :: r =>
      let (items, rest) := takeHyphens blanks fuel (skip blanks r)
      (.letter ⟨'-', false⟩ :: items, rest)
    | cs => ([], cs)

/-- The beginning of a class whose bracket has been read: whether it is negated, and the characters
that stand for themselves only here. -/
def openClass (blanks : Bool) (cs : List Char) : Bool × List ClassItem × List Char :=
  let (negated, r) := match skip blanks cs with
    | '^' :: r => (true, skip blanks r)
    | r => (false, r)
  let (items, r) := takeHyphens blanks r.length r
  match items, r with
  | [], ']' :: r => (negated, [.letter ⟨']', false⟩], skip blanks r)
  | items, r => (negated, items.reverse, r)

/-- The operand before an operator, joined to what stands left of it. -/
def joinOperand (left : Option (SetOperator × ClassItem)) (items : List ClassItem) : ClassItem :=
  let item := ClassItem.ofItems items.reverse
  match left with
  | some (op, before) => .operator op before item
  | none => item

/-- The rest of a class up to its bracket. `left` is what stands before the last operator and
`items`, in reverse, what has been read since. -/
def readClass? (blanks : Bool) : Nat → Option (SetOperator × ClassItem) → List ClassItem →
    List Char → Option (ClassItem × List Char)
  | 0, _, _, _ => none
  | fuel + 1, left, items, cs =>
    match skip blanks cs with
    | [] => none
    | '[' :: r => match readNamed? r with
      | some (item, rest) => readClass? blanks fuel left (item :: items) rest
      | none =>
        let (negated, first, r) := openClass blanks r
        (readClass? blanks fuel none first r).bind fun (item, rest) =>
          readClass? blanks fuel left (.bracketed negated item :: items) rest
    | ']' :: r => some (joinOperand left items, r)
    | '&' :: '&' :: r => readClass? blanks fuel (some (.inter, joinOperand left items)) [] r
    | '-' :: '-' :: r => readClass? blanks fuel (some (.diff, joinOperand left items)) [] r
    | '~' :: '~' :: r => readClass? blanks fuel (some (.symmDiff, joinOperand left items)) [] r
    | cs => (readRange? blanks cs).bind fun (item, rest) =>
        readClass? blanks fuel left (item :: items) rest

/-- A class whose opening bracket has been read. -/
def readBracketed? (blanks : Bool) (cs : List Char) : Option (Tree × List Char) :=
  let (negated, first, r) := openClass blanks cs
  (readClass? blanks (cs.length + 1) none first r).map fun (item, rest) =>
    (.bracketed negated item, rest)

/-! ## Groups -/

/-- The groups met so far: their number and their names. -/
structure Groups where
  count : Nat
  names : List (List Char)

/-- The letters of the switches. -/
def flagOf? (c : Char) : Option Flag :=
  match c with
  | 'i' => some .caseInsensitive
  | 'm' => some .multiLine
  | 's' => some .dotMatchesNewLine
  | 'U' => some .swapGreed
  | 'u' => some .unicode
  | 'R' => some .carriageReturns
  | 'x' => some .ignoreBlanks
  | _ => none

/-- Switches up to a colon or a closing parenthesis, which is given back. `off` says that a minus
has been read, `dangling` that it was the last thing read. -/
def readFlags? (off dangling : Bool) (changes : List FlagChange) :
    List Char → Option (List FlagChange × Char × List Char)
  | [] => none
  | c :: r =>
    if c == ':' || c == ')' then
      if dangling then none else some (changes.reverse, c, r)
    else if c == '-' then
      if off then none else readFlags? true true changes r
    else (flagOf? c).bind fun flag =>
      if changes.any fun change => change.flag == flag then none
      else readFlags? off false (⟨flag, !off⟩ :: changes) r

/-- Characters of the name of a group. -/
def isNameChar (first : Bool) (c : Char) : Bool :=
  if first then c == '_' || Text.isAlphabetic c
  else c == '_' || c == '.' || c == '[' || c == ']' || Text.isAlphanumeric c

/-- The name of a group up to its bracket. -/
def readGroupName? (first : Bool) : List Char → Option (List Char × List Char)
  | [] => none
  | '>' :: r => if first then none else some ([], r)
  | c :: r =>
    if isNameChar first c then
      (readGroupName? false r).map fun (name, rest) => (c :: name, rest)
    else none

/-- The beginning of a group, or switches that hold from here on. -/
inductive GroupHead where
  | switches (changes : List FlagChange)
  | group (kind : GroupKind) (groups : Groups)

/-- A group with a name. -/
def namedHead? (groups : Groups) (cs : List Char) : Option (GroupHead × List Char) :=
  (readGroupName? true cs).bind fun (name, rest) =>
    if groups.names.contains name then none
    else some (.group (.capture (groups.count + 1)) ⟨groups.count + 1, name :: groups.names⟩, rest)

/-- What follows an opening parenthesis. -/
def readHead? (blanks : Bool) (groups : Groups) (cs : List Char) :
    Option (GroupHead × List Char) :=
  match skip blanks cs with
  | '?' :: '=' :: _ => none
  | '?' :: '!' :: _ => none
  | '?' :: '<' :: '=' :: _ => none
  | '?' :: '<' :: '!' :: _ => none
  | '?' :: 'P' :: '<' :: r => namedHead? groups r
  | '?' :: '<' :: r => namedHead? groups r
  | '?' :: r => (readFlags? false false [] r).bind fun (changes, ending, rest) =>
      if ending == ':' then some (.group (.plain changes) groups, rest)
      else if changes.isEmpty then none
      else some (.switches changes, rest)
  | r => some (.group (.capture (groups.count + 1)) ⟨groups.count + 1, groups.names⟩, r)

/-- Whether blanks are passed over after some switches. -/
def blanksAfter (blanks : Bool) (changes : List FlagChange) : Bool :=
  match changes.find? fun change => change.flag == .ignoreBlanks with
  | some change => change.on
  | none => blanks

/-- Whether blanks are passed over inside a group. -/
def GroupKind.blanks (blanks : Bool) : GroupKind → Bool
  | capture _ => blanks
  | plain changes => blanksAfter blanks changes

/-! ## Repetitions -/

/-- Whether a repetition takes as much as it can: not if a question mark follows. -/
def readGreed : List Char → Bool × List Char
  | '?' :: r => (false, r)
  | r => (true, r)

/-- The last item repeated; switches cannot be. -/
def repeatLast? (least : Nat) (most : Option Nat) (greedy : Bool) :
    List Tree → Option (List Tree)
  | [] => none
  | .flags _ :: _ => none
  | t :: r => some (.repetition least most greedy t :: r)

/-- The counts between braces, the first of which has been read. -/
def readCounts? (blanks : Bool) (cs : List Char) : Option (Nat × Option Nat × List Char) :=
  match readCount? blanks (skip blanks cs) with
  | some (least, '\x7d' :: r) => some (least, some least, r)
  | some (least, ',' :: r) => match skip blanks r with
    | '\x7d' :: r => some (least, none, r)
    | r => match readCount? blanks r with
      | some (most, '\x7d' :: r) => if least ≤ most then some (least, some most, r) else none
      | _ => none
  | _ => none

/-! ## Patterns -/

/-- A pattern up to the end of its group: what it is, the groups met, what is left, and whether a
closing parenthesis ended it. -/
structure Body where
  tree : Tree
  groups : Groups
  rest : List Char
  closed : Bool

/-- One item that is neither a group nor a class nor a repetition. -/
def readItem? (blanks : Bool) : List Char → Option (Tree × List Char)
  | [] => none
  | '\\' :: r => readEscape? blanks r
  | '.' :: r => some (.dot, r)
  | '^' :: r => some (.assertion .lineStart, r)
  | '$' :: r => some (.assertion .lineEnd, r)
  | c :: r => some (letterTree c, r)

/-- The alternatives read so far and the items of the last, both in reverse. -/
def finish (alternatives items : List Tree) : Tree :=
  Tree.ofAlternatives (Tree.ofConcat items.reverse :: alternatives).reverse

/-- The rest of a pattern up to the end of its group. -/
def readBody? : Nat → Bool → Groups → List Tree → List Tree → List Char → Option Body
  | 0, _, _, _, _, _ => none
  | fuel + 1, blanks, groups, alternatives, items, cs =>
    match skip blanks cs with
    | [] => some ⟨finish alternatives items, groups, [], false⟩
    | ')' :: r => some ⟨finish alternatives items, groups, r, true⟩
    | '|' :: r =>
      readBody? fuel blanks groups (Tree.ofConcat items.reverse :: alternatives) [] r
    | '(' :: r => match readHead? blanks groups r with
      | none => none
      | some (.switches changes, rest) =>
        readBody? fuel (blanksAfter blanks changes) groups alternatives (.flags changes :: items)
          rest
      | some (.group kind groups, rest) =>
        match readBody? fuel (kind.blanks blanks) groups [] [] rest with
        | some ⟨t, groups, rest, true⟩ =>
          readBody? fuel blanks groups alternatives (.group kind t :: items) rest
        | _ => none
    | '[' :: r => (readBracketed? blanks r).bind fun (t, rest) =>
        readBody? fuel blanks groups alternatives (t :: items) rest
    | '?' :: r =>
      let (greedy, r) := readGreed r
      (repeatLast? 0 (some 1) greedy items).bind fun items =>
        readBody? fuel blanks groups alternatives items r
    | '*' :: r =>
      let (greedy, r) := readGreed r
      (repeatLast? 0 none greedy items).bind fun items =>
        readBody? fuel blanks groups alternatives items r
    | '+' :: r =>
      let (greedy, r) := readGreed r
      (repeatLast? 1 none greedy items).bind fun items =>
        readBody? fuel blanks groups alternatives items r
    | '\x7b' :: r => (readCounts? blanks r).bind fun (least, most, r) =>
        let (greedy, r) := readGreed (skip blanks r)
        (repeatLast? least most greedy items).bind fun items =>
          readBody? fuel blanks groups alternatives items r
    | cs => (readItem? blanks cs).bind fun (t, rest) =>
        readBody? fuel blanks groups alternatives (t :: items) rest

/-- The pattern that a text writes, none if it is malformed or nested too deep. -/
def Tree.ofPattern? (pattern : String) : Option Tree :=
  let cs := pattern.toList
  match readBody? (cs.length + 1) false ⟨0, []⟩ [] [] cs with
  | some ⟨t, _, _, false⟩ => if t.depth ≤ maxDepth then some t else none
  | _ => none

end PolicyFields.Regex
