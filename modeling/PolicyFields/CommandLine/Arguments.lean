import PolicyFields.Files.Path

/-!
# Command lines

* `Command`, `Request` — what the user asks for.
* `Switch`, `Grammar` — the options and operands that a command takes.
* `scan` — the arguments sorted into options and operands, whatever they mean.
* `Reading`, `read` — the request that some arguments make.

Options may stand before, between and behind operands; after `--` all are operands. A value follows
its option, or is attached to it; an argument that looks like an option is no value.

The texts of help and of refusals are left out, and how much is logged is read and not used.
-/

namespace PolicyFields.CommandLine

/-! ## Requests -/

/-- Extract the fields of a company's documents (`ExtractArgs`). -/
structure ExtractRequest where
  company : String
  output : Option Path
  pdfDir : Option Path
  limit : Option Nat
  summary : Option Path
  continueOnError : Bool
deriving DecidableEq, Repr

/-- Map a raw artifact (`MapArgs`). -/
structure MapRequest where
  company : Option String
  input : Option Path
  output : Option Path
  mapping : Option Path
deriving DecidableEq, Repr

/-- Report how well the fields of an artifact were found (`CheckArgs`). -/
structure CheckRequest where
  company : Option String
  input : Option Path
  field : Option String
  samples : Nat
  failures : Nat
deriving DecidableEq, Repr

/-- Try a pattern in the first documents of a company (`TestPatternArgs`). -/
structure TryRequest where
  company : String
  pattern : String
  group : Nat
  documents : Nat
  pdfDir : Option Path
deriving DecidableEq, Repr

/-- Extract and map companies (`RunArgs`): those named, or all. -/
structure BatchRequest where
  companies : List String
  all : Bool
  skipExtraction : Bool
  continueOnError : Bool
deriving DecidableEq, Repr

/-- Recognize the companies of files (`DetectArgs`). -/
structure DetectRequest where
  paths : List Path
  evaluate : Bool
deriving DecidableEq, Repr

/-- Look at the settings or change them (`ConfigCommand`). -/
inductive SettingsRequest where
  | display
  | init (output : Option Path) (force : Bool)
  | get (key : String)
  | set (key value : String)
  | path
deriving DecidableEq, Repr

/-- What is to be done (`Commands`). -/
inductive Command where
  | extract (r : ExtractRequest)
  | map (r : MapRequest)
  | check (r : CheckRequest)
  | tryPattern (r : TryRequest)
  | batch (r : BatchRequest)
  | detect (r : DetectRequest)
  | settings (r : SettingsRequest)
deriving DecidableEq, Repr

/-- What is to be done, and with which settings file if not the usual one (`Cli`). -/
structure Request where
  settings : Option Path
  command : Command
deriving DecidableEq, Repr

/-! ## Options and operands -/

/-- What follows an option, and how often it may be given. -/
inductive Arity where
  | flag
  /-- May be repeated. -/
  | counter
  | value
  /-- With a value each time. -/
  | values
deriving DecidableEq, Repr

namespace Arity

/-- Whether a value follows. -/
def takesValue : Arity → Bool
  | flag | counter => false
  | value | values => true

/-- Whether the option may be given again. -/
def repeats : Arity → Bool
  | flag | value => false
  | counter | values => true

end Arity

/-- An option with its long name and its letter. -/
structure Switch where
  name : String
  letter : Option Char
  arity : Arity
deriving DecidableEq, Repr

/-- The options that every command takes. -/
def commonSwitches : List Switch :=
  [⟨"verbose", some 'v', .counter⟩, ⟨"config", some 'c', .value⟩, ⟨"help", some 'h', .flag⟩]

/-- What a command takes: options besides the common ones, and operands or a further command. -/
structure Grammar where
  switches : List Switch
  /-- The first operand is the name of a command, to which what follows belongs. -/
  nests : Bool

/-- The options of a command with the common ones. -/
def Grammar.all (g : Grammar) : List Switch := commonSwitches ++ g.switches

/-- Why no request is read. -/
inductive Stop where
  /-- The arguments do not fit. -/
  | refused
  | help
  | version
deriving DecidableEq, Repr

/-- An option that was given, with its value; flags have an empty one. -/
structure Given where
  name : String
  value : String
deriving DecidableEq, Repr

/-- The arguments of a command, sorted. -/
structure Scanned where
  given : List Given
  operands : List String
  /-- The name of a further command and its arguments. -/
  nested : Option (String × List String)
deriving DecidableEq, Repr

namespace Scanned

/-- The values of an option. -/
def values (s : Scanned) (name : String) : List String :=
  s.given.filterMap fun g => if g.name = name then some g.value else none

/-- The value of an option. -/
def value? (s : Scanned) (name : String) : Option String := (s.values name).head?

/-- Whether an option was given. -/
def has (s : Scanned) (name : String) : Bool := (s.value? name).isSome

end Scanned

/-- Whether an argument is read as options. -/
def looksLikeOption (a : String) : Bool :=
  match a.toList with
  | '-' :: _ :: _ => true
  | _ => false

/-- The options in one argument: those that are complete, and one that waits for its value. -/
structure Cluster where
  complete : List Given
  waiting : Option Switch

/-- The letters of an argument read as options. The letters behind an option with a value are its
value. -/
def readLetters (switches : List Switch) : List Char → Except Stop Cluster
  | [] => .ok ⟨[], none⟩
  | c :: r =>
    match switches.find? fun s => s.letter == some c with
    | none => .error .refused
    | some s =>
      if s.arity.takesValue then
        match r with
        | [] => .ok ⟨[], some s⟩
        | '=' :: value => .ok ⟨[⟨s.name, String.ofList value⟩], none⟩
        | value => .ok ⟨[⟨s.name, String.ofList value⟩], none⟩
      else do
        let others ← readLetters switches r
        return { others with complete := ⟨s.name, ""⟩ :: others.complete }

/-- A long option; its value may be attached behind an equals sign. -/
def readLong (switches : List Switch) (cs : List Char) : Except Stop Cluster :=
  let name := String.ofList (cs.takeWhile (· != '='))
  match switches.find? (fun s => s.name == name), cs.dropWhile (· != '=') with
  | none, _ => .error .refused
  | some s, [] => .ok (if s.arity.takesValue then ⟨[], some s⟩ else ⟨[⟨name, ""⟩], none⟩)
  | some s, _ :: value =>
    if s.arity.takesValue then .ok ⟨[⟨name, String.ofList value⟩], none⟩ else .error .refused

/-- The options in an argument that looks like some. -/
def readOptions (switches : List Switch) (a : String) : Except Stop Cluster :=
  match a.toList with
  | '-' :: '-' :: cs => readLong switches cs
  | _ :: cs => readLetters switches cs
  | [] => .error .refused

/-- Options added to those given before. Asking for help or for the version ends the reading, and
most options may be given once. -/
def accept (switches : List Switch) : List Given → List Given → Except Stop (List Given)
  | before, [] => .ok before
  | before, g :: r =>
    if g.name = "help" then .error .help
    else if g.name = "version" then .error .version
    else if before.any (·.name == g.name) &&
        !(switches.any fun s => s.name == g.name && s.arity.repeats) then .error .refused
    else accept switches (before ++ [g]) r

/-- The arguments behind `--`, all operands. -/
def closing (g : Grammar) (given : List Given) (operands rest : List String) :
    Except Stop Scanned :=
  if g.nests && !rest.isEmpty then .error .refused else .ok ⟨given, operands ++ rest, none⟩

/-- The arguments of a command, sorted; some have been read. -/
def scanFrom (g : Grammar) (given : List Given) (operands : List String) :
    List String → Except Stop Scanned
  | [] => .ok ⟨given, operands, none⟩
  | a :: r =>
    if a = "--" then closing g given operands r
    else if looksLikeOption a then do
      let cluster ← readOptions g.all a
      let given ← accept g.all given cluster.complete
      match cluster.waiting, r with
      | none, r => scanFrom g given operands r
      | some _, [] => throw .refused
      | some s, value :: r =>
        if looksLikeOption value then throw .refused
        else scanFrom g (← accept g.all given [⟨s.name, value⟩]) operands r
    else if g.nests then .ok ⟨given, operands, some (a, r)⟩
    else scanFrom g given (operands ++ [a]) r

/-- The arguments of a command, sorted. -/
def scan (g : Grammar) (args : List String) : Except Stop Scanned := scanFrom g [] [] args

/-! ## Values -/

/-- The number that a text of digits writes, a plus sign in front allowed; it must have 64 bits. -/
def readCount (s : String) : Except Stop Nat :=
  let ds := match s.toList with
    | '+' :: ds => ds
    | ds => ds
  let n := ds.foldl (fun n c => 10 * n + (c.toNat - '0'.toNat)) 0
  if ds.isEmpty || !ds.all Char.isDigit || 0x10000000000000000 ≤ n then .error .refused else .ok n

/-- A path, which is not empty. -/
def readPath (s : String) : Except Stop Path := if s.isEmpty then .error .refused else .ok ⟨s⟩

/-- What `item` reads from the value of an option, if it was given. -/
def option {α : Type} (item : String → Except Stop α) (s : Scanned) (name : String) :
    Except Stop (Option α) :=
  match s.value? name with
  | some v => some <$> item v
  | none => .ok none

/-! ## Commands -/

/-- The arguments of `extract`. -/
def readExtract (args : List String) : Except Stop (Scanned × Command) := do
  let s ← scan ⟨[⟨"output", some 'o', .value⟩, ⟨"pdf-dir", none, .value⟩,
    ⟨"limit", some 'n', .value⟩, ⟨"summary", none, .value⟩,
    ⟨"continue-on-error", none, .flag⟩], false⟩ args
  match s.operands with
  | [company] =>
    return (s, .extract ⟨company, ← option readPath s "output", ← option readPath s "pdf-dir",
      ← option readCount s "limit", ← option readPath s "summary", s.has "continue-on-error"⟩)
  | _ => throw .refused

/-- The arguments of `map`. -/
def readMap (args : List String) : Except Stop (Scanned × Command) := do
  let s ← scan ⟨[⟨"input", some 'i', .value⟩, ⟨"output", some 'o', .value⟩,
    ⟨"mapping", some 'm', .value⟩], false⟩ args
  if 1 < s.operands.length then throw .refused
  return (s, .map ⟨s.operands.head?, ← option readPath s "input", ← option readPath s "output",
    ← option readPath s "mapping"⟩)

/-- The arguments of `check`. -/
def readCheck (args : List String) : Except Stop (Scanned × Command) := do
  let s ← scan ⟨[⟨"input", some 'i', .value⟩, ⟨"field", some 'f', .value⟩,
    ⟨"samples", none, .value⟩, ⟨"failures", none, .value⟩], false⟩ args
  if 1 < s.operands.length then throw .refused
  return (s, .check ⟨s.operands.head?, ← option readPath s "input", s.value? "field",
    (← option readCount s "samples").getD 5, (← option readCount s "failures").getD 5⟩)

/-- The arguments of `test-pattern`. -/
def readTry (args : List String) : Except Stop (Scanned × Command) := do
  let s ← scan ⟨[⟨"group", some 'g', .value⟩, ⟨"documents", some 'n', .value⟩,
    ⟨"pdf-dir", none, .value⟩], false⟩ args
  match s.operands with
  | [company, pattern] =>
    return (s, .tryPattern ⟨company, pattern, (← option readCount s "group").getD 1,
      (← option readCount s "documents").getD 5, ← option readPath s "pdf-dir"⟩)
  | _ => throw .refused

/-- The arguments of `run`: companies, or all of them. -/
def readBatch (args : List String) : Except Stop (Scanned × Command) := do
  let s ← scan ⟨[⟨"company", some 'C', .values⟩, ⟨"all", none, .flag⟩,
    ⟨"skip-extraction", none, .flag⟩, ⟨"continue-on-error", none, .flag⟩], false⟩ args
  let companies := s.values "company"
  if !s.operands.isEmpty || s.has "all" == !companies.isEmpty then throw .refused
  return (s, .batch ⟨companies, s.has "all", s.has "skip-extraction", s.has "continue-on-error"⟩)

/-- The arguments of `detect`. -/
def readDetect (args : List String) : Except Stop (Scanned × Command) := do
  let s ← scan ⟨[⟨"evaluate", none, .flag⟩], false⟩ args
  if s.operands.isEmpty then throw .refused
  return (s, .detect ⟨← s.operands.mapM readPath, s.has "evaluate"⟩)

/-- The arguments of a command on settings. -/
def readSettingsCommand (name : String) (args : List String) :
    Except Stop (Scanned × SettingsRequest) := do
  if name = "init" then
    let s ← scan ⟨[⟨"output", some 'o', .value⟩, ⟨"force", none, .flag⟩], false⟩ args
    if !s.operands.isEmpty then throw .refused
    return (s, .init (← option readPath s "output") (s.has "force"))
  else
    let s ← scan ⟨[], false⟩ args
    match name, s.operands with
    | "show", [] => return (s, .display)
    | "get", [key] => return (s, .get key)
    | "set", [key, value] => return (s, .set key value)
    | "path", [] => return (s, .path)
    | "help", _ => throw .help
    | _, _ => throw .refused

/-- The settings file named closest to the command, if any is. -/
def settingsPath (levels : List Scanned) : Option Path :=
  (levels.reverse.findSome? fun s => s.value? "config").map Path.mk

/-- The arguments of `config`, which has commands of its own. -/
def readConfig (outer : Scanned) (args : List String) : Except Stop Request := do
  let s ← scan ⟨[], true⟩ args
  match s.nested with
  | none => throw .refused
  | some (name, args) =>
    let (inner, r) ← readSettingsCommand name args
    return ⟨settingsPath [outer, s, inner], .settings r⟩

/-- The arguments behind the name of a command. -/
def readCommand (name : String) (args : List String) : Except Stop (Scanned × Command) :=
  match name with
  | "extract" => readExtract args
  | "map" => readMap args
  | "check" => readCheck args
  | "test-pattern" => readTry args
  | "run" => readBatch args
  | "detect" => readDetect args
  | "help" => .error .help
  | _ => .error .refused

/-- The request that some arguments make. -/
def read (args : List String) : Except Stop Request := do
  let outer ← scan ⟨[⟨"version", some 'V', .flag⟩], true⟩ args
  match outer.nested with
  | none => throw .refused
  | some ("config", args) => readConfig outer args
  | some (name, args) =>
    let (inner, command) ← readCommand name args
    return ⟨settingsPath [outer, inner], command⟩

end PolicyFields.CommandLine
