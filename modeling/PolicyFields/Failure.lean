import PolicyFields.Files.Error
import PolicyFields.Files.Path
import PolicyFields.Json.Error
import PolicyFields.Regex.Machine

/-!
# What can go wrong

* `FieldFault` — what is wrong with the configuration of one field.
* `ConfigError`, `DocumentError`, `MappingError` — failures of one stage.
* `Failure` — a failure of any stage, with its wording `Failure.message` and the chain of its
  causes.

A message is a frame and a cause: the frame is the error's own text, and the cause, where there is
one, ends it.
-/

namespace PolicyFields

/-- What is wrong with the configuration of one field. -/
inductive FieldFault where
  /-- The value has the wrong shape. -/
  | shape (e : Json.Error)
  | kindMissing
  | kindNotText
  | defaultMissing
  | groupMissing (pattern : String) (group : Nat)
  | unknownTransform (name : String)
  | outcomeMissing (pattern : String)
  | captureMissing (pattern : String)
  | unusableMultiplier (n : Json.Number)
deriving DecidableEq

/-- The wording of a fault. -/
def FieldFault.message : FieldFault → String
  | shape e => e.message
  | kindMissing => "missing \x60type\x60"
  | kindNotText => "\x60type\x60 must be a string"
  | defaultMissing => "extract_normalize requires an explicit \x60default\x60"
  | groupMissing pattern group =>
    "pattern " ++ Text.quote pattern ++ " has no group " ++ toString group
  | unknownTransform name => "unknown transform " ++ Text.quote name
  | outcomeMissing pattern =>
    "rule " ++ Text.quote pattern ++ " needs \x60output\x60 or \x60transform\x60"
  | captureMissing pattern => "transform pattern " ++ Text.quote pattern ++ " has no capture group"
  | unusableMultiplier n => "unusable multiplier " ++ String.ofList n.chars

/-- What ends a message. -/
inductive Cause where
  | none
  | file (e : FileError)
  | json (e : Json.Error)
  | pattern (e : Regex.PatternError)
deriving DecidableEq

namespace Cause

/-- The wording of a cause. -/
def message : Cause → String
  | none => ""
  | file e => e.message
  | json e => e.message
  | pattern e => e.message

/-- The causes of a cause, itself first. -/
def chain : Cause → List String
  | none => []
  | c => [c.message]

end Cause

/-- Why a configuration cannot be used (`ConfigError`). -/
inductive ConfigError where
  | notFound (p : Path)
  | unreadable (p : Path) (e : FileError)
  | malformed (p : Path) (e : Json.Error)
  | invalidField (field : String) (fault : FieldFault)
  | invalidPattern (field : String) (e : Regex.PatternError)
deriving DecidableEq

namespace ConfigError

/-- The error's own text. -/
def frame : ConfigError → String
  | notFound p => "configuration file not found: " ++ p.text
  | unreadable p _ => "failed to read " ++ p.text ++ ": "
  | malformed p _ => "malformed configuration " ++ p.text ++ ": "
  | invalidField field fault =>
    "invalid configuration for field '" ++ field ++ "': " ++ fault.message
  | invalidPattern field _ => "invalid pattern for field '" ++ field ++ "': "

/-- The cause that ends the text. -/
def cause : ConfigError → Cause
  | notFound _ => .none
  | unreadable _ e => .file e
  | malformed _ e => .json e
  | invalidField _ _ => .none
  | invalidPattern _ e => .pattern e

/-- The wording of an error. -/
def message (e : ConfigError) : String := e.frame ++ e.cause.message

end ConfigError

/-- Why a document has no text (`PdfError`). -/
inductive DocumentError where
  | unreadable (p : Path) (e : FileError)
  | notParsed (message : String)
  | noText (message : String)
  | encrypted
  | noPages
deriving DecidableEq, Repr

namespace DocumentError

/-- The error's own text. -/
def frame : DocumentError → String
  | unreadable p _ => "failed to read " ++ p.text ++ ": "
  | notParsed message => "failed to parse PDF: " ++ message
  | noText message => "failed to extract text: " ++ message
  | encrypted => "PDF is encrypted"
  | noPages => "PDF has no pages"

/-- The cause that ends the text. -/
def cause : DocumentError → Cause
  | unreadable _ e => .file e
  | _ => .none

/-- The wording of an error. -/
def message (e : DocumentError) : String := e.frame ++ e.cause.message

end DocumentError

/-- Why a field cannot be mapped (`MappingError`). -/
inductive MappingError where
  | notAnObject (field : String)
  | overflow (number : String)
deriving DecidableEq, Repr

/-- The wording of an error. -/
def MappingError.message : MappingError → String
  | notAnObject field => "field '" ++ field ++ "' is not an object of document values"
  | overflow number => "numeric value out of range: " ++ number

/-- Why there are no documents. -/
inductive CorpusError where
  | directoryNotFound (p : Path)
  | noDocuments (p : Path)
deriving DecidableEq, Repr

/-- The wording of an error. -/
def CorpusError.message : CorpusError → String
  | directoryNotFound p => "PDF directory not found: " ++ p.text
  | noDocuments p => "no PDF files found in " ++ p.text

/-- Any failure (`SigexError`). -/
inductive Failure where
  | document (e : DocumentError)
  | config (e : ConfigError)
  | mapping (e : MappingError)
  | corpus (e : CorpusError)
  | file (e : FileError)
  | json (e : Json.Error)
deriving DecidableEq

namespace Failure

/-- The failure's own text, the frame of what it wraps included. -/
def frame : Failure → String
  | document e => "PDF error: " ++ e.frame
  | config e => "configuration error: " ++ e.frame
  | mapping e => "mapping error: " ++ e.message
  | corpus e => "corpus error: " ++ e.message
  | file _ => "I/O error: "
  | json _ => "JSON error: "

/-- The cause that ends the text. -/
def cause : Failure → Cause
  | document e => e.cause
  | config e => e.cause
  | mapping _ => .none
  | corpus _ => .none
  | file e => .file e
  | json e => .json e

/-- The wording of a failure. -/
def message (f : Failure) : String := f.frame ++ f.cause.message

/-- The wording of a failure and of all its causes. -/
def chain (f : Failure) : List String :=
  f.message :: (match f with
    | document e => [e.message]
    | config e => [e.message]
    | mapping e => [e.message]
    | corpus _ | file _ | json _ => []) ++ f.cause.chain

end Failure

end PolicyFields
