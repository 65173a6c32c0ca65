import PolicyFields.Documents
import PolicyFields.Extraction.Engine
import PolicyFields.Extraction.RuleSet
import PolicyFields.Extraction.Statistics

/-!
# Extraction sessions

A session reads the texts of documents from a source, which may change with every reading, and keeps
the text of every path that it has read.

* `Extractor` — the rules of a company, ready to run.
* `Session`, `Run` — the state of a session and steps on it that may fail.
* `Extractor.text`, `extractField`, `extractAll`, `testPattern` — steps on one document.
* `Extractor.extractCorpus` — all documents, with a `Corpus` as its result.

The flag that interrupts a run is a test `stop`, made before every document. What is logged is left
out.
-/

namespace PolicyFields.Extraction

open Json (Value)

/-- How the text of a document is read from a source (`TextSource`). -/
abbrev Reader (σ : Type) := Path → σ → Except DocumentError String × σ

/-- The state of a session: its source, and the texts that have been read. -/
structure Session (σ : Type) where
  source : σ
  cache : List (List Path.Component × String)

/-- A step that may fail; what it has read is kept also then. -/
abbrev Run (σ α : Type) := Session σ → Except Failure α × Session σ

namespace Run

variable {σ α β : Type}

/-- A step that does nothing. -/
def done (a : α) : Run σ α := fun s => (.ok a, s)

/-- One step after another. -/
def andThen (r : Run σ α) (next : α → Run σ β) : Run σ β := fun s =>
  match r s with
  | (.ok a, s) => next a s
  | (.error e, s) => (.error e, s)

instance : Monad (Run σ) where
  pure := done
  bind := andThen

end Run

variable {σ : Type}

/-- The text of a document, read from the source unless it is in the cache (`get_or_load`). -/
def cachedText (read : Reader σ) (p : Path) (s : Session σ) :
    Except DocumentError String × Session σ :=
  match s.cache.lookup p.components with
  | some text => (.ok text, s)
  | none =>
    match read p s.source with
    | (.ok text, source) => (.ok text, ⟨source, (p.components, text) :: s.cache⟩)
    | (.error e, source) => (.error e, ⟨source, s.cache⟩)

/-- The rules of a company, ready to run (`PolicyExtractor`). -/
structure Extractor where
  company : String
  options : Regex.Options
  fields : Dict (Option FieldFinder)
  /-- Whether documents without text are passed over. -/
  continueOnError : Bool

namespace Extractor

/-- The extractor of some rules (`with_engine`). -/
def make (company : String) (set : RuleSet) (options : Regex.Options) (continueOnError : Bool) :
    Extractor :=
  ⟨company, options, set.rules.map fun _ rule => rule.map (FieldFinder.compile options),
    continueOnError⟩

/-- What the rule of a field finds in a text; nothing if the field has no rule. -/
def extractFrom (text : String) (finder : Option FieldFinder) : Option Extracted :=
  finder.bind fun f => f.extract text

/-- The text of a document (`text`). -/
def text (read : Reader σ) (p : Path) : Run σ String := fun s =>
  match cachedText read p s with
  | (.ok text, s) => (.ok text, s)
  | (.error e, s) => (.error (.document e), s)

/-- What one field is in a document (`extract_field`). Fields without a rule are not found, and the
document is not read for them. -/
def extractField (ex : Extractor) (read : Reader σ) (p : Path) (field : String) :
    Run σ (Option Extracted) :=
  match ex.fields.find? field with
  | some (some finder) => do return finder.extract (← text read p)
  | _ => pure none

/-- What all fields are in a document (`extract_all_fields`). -/
def extractAll (ex : Extractor) (read : Reader σ) (p : Path) :
    Run σ (Dict (Option Extracted)) := do
  let t ← text read p
  return ex.fields.map fun _ finder => extractFrom t finder

/-- All matches of a pattern in a document (`test_pattern`). -/
def testPattern (ex : Extractor) (read : Reader σ) (p : Path) (pattern : String) (group : Nat) :
    Run σ (List String) := do
  return (Finder.compile ex.options pattern group).all (← text read p)

end Extractor

/-! ## All documents -/

/-- What has been found in one document, and why it could not be read, if it could not. -/
structure Row where
  id : String
  values : Dict (Option Extracted)
  failure : Option Failure

/-- The result of a run over documents (`CorpusExtraction`). -/
structure Corpus where
  /-- For every field what it is in every document. -/
  fields : Dict (Dict (Option Extracted))
  /-- The number of documents, those that could not be read included. -/
  documents : Nat
  /-- The documents that could not be read. -/
  failed : List (String × Failure)
  /-- Whether the run was stopped before the last document. -/
  interrupted : Bool

namespace Corpus

/-- In how many documents each field was found. -/
def stats (c : Corpus) : Dict FieldStats :=
  c.fields.map fun _ values => ⟨values.values.countP Option.isSome, c.documents⟩

/-- The summary of a run (`summary`). -/
def summary (c : Corpus) (threshold : Float) : Summary := ⟨c.stats, threshold⟩

/-- The raw artifact (`save_artifact`): for every field what it is in every document. -/
def artifact (c : Corpus) : Value :=
  .ofDict (c.fields.map fun _ values => .ofDict (values.map fun _ v => resultValue v))

end Corpus

namespace Extractor

/-- What has been found in one document. A document that cannot be read ends the run, unless such
documents are passed over. -/
def row (ex : Extractor) (read : Reader σ) (d : Document) : Run σ Row := fun s =>
  match ex.extractAll read d.path s with
  | (.ok values, s) => (.ok ⟨d.id, values, none⟩, s)
  | (.error e, s) =>
    if ex.continueOnError then (.ok ⟨d.id, ex.fields.map fun _ _ => none, some e⟩, s)
    else (.error e, s)

/-- The documents from number `k` on, and whether the run was stopped. It is stopped before a
document if `stop` says so, given the number of the document and the source. -/
def rows (ex : Extractor) (read : Reader σ) (stop : Nat → σ → Bool) :
    Nat → List Document → Run σ (List Row × Bool)
  | _, [] => pure ([], false)
  | k, d :: ds => fun s =>
    if stop k s.source then (.ok ([], true), s)
    else (do
      let first ← ex.row read d
      let (others, stopped) ← rows ex read stop (k + 1) ds
      return (first :: others, stopped)) s

/-- The result that some rows make. -/
def collect (ex : Extractor) (rs : List Row) (stopped : Bool) : Corpus :=
  { fields := ex.fields.map fun name _ =>
      Dict.ofList (rs.map fun r => (r.id, (r.values.find? name).join))
    documents := rs.length
    failed := rs.filterMap fun r => r.failure.map fun e => (r.id, e)
    interrupted := stopped }

/-- All fields of all documents (`extract_corpus`). -/
def extractCorpus (ex : Extractor) (read : Reader σ) (stop : Nat → σ → Bool)
    (documents : List Document) : Run σ Corpus := do
  let (rs, stopped) ← ex.rows read stop 0 documents
  return ex.collect rs stopped

end Extractor

end PolicyFields.Extraction
