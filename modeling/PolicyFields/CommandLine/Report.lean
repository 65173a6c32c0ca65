import PolicyFields.Extraction.Session
import PolicyFields.Json.Writer
import PolicyFields.Mapping.Artifact
import PolicyFields.Text.Csv

/-!
# Reports

What commands print about their results, line by line.

* `extractionLines`, `statisticsTable` — a run of extraction.
* `mappingLines` — a run of mapping.
* `checkLines` — how well the fields of an artifact were found.
* `trialLines` — what a pattern finds.
* `detectionLines`, `evaluationLines` — the companies of files.
-/

namespace PolicyFields.CommandLine

open Extraction (Corpus FieldStats Summary)
open Json (Value)

/-- The mark, the name and the rate of a field. -/
def statsLine (s : Summary) (field : String × FieldStats) : String :=
  (field.2.status s.threshold).mark ++ " " ++ field.1 ++ ": " ++ field.2.display

/-- How many fields work. -/
def workingText (s : Summary) : String :=
  "Working fields: " ++ toString s.working ++ "/" ++ toString s.fields.size ++ " (" ++
    Number.fixedText 1 s.completion ++ "%)"

/-! ## Extraction -/

/-- The outcome of an extraction (`print_summary`). -/
def extractionLines (company : String) (c : Corpus) (s : Summary) : List String :=
  ["", "ℹ " ++ company ++ ": " ++ toString c.documents ++ " documents, " ++
    toString s.fields.size ++ " fields"] ++
  s.ranked.map (fun f => "  " ++ statsLine s f) ++
  ["  " ++ workingText s] ++
  (if c.failed.isEmpty then []
    else ["", "Failed documents:"] ++ c.failed.map fun f => "  - " ++ f.1 ++ ": " ++ f.2.message) ++
  (if c.interrupted then
    ["⚠ Interrupted, artifact holds the " ++ toString c.documents ++ " documents processed so far"]
    else [])

/-- The rates of all fields as a table (`write_summary_csv`). -/
def statisticsTable (s : Summary) : String :=
  Text.csv (["field", "successful", "total", "success_rate", "status"] ::
    s.ranked.map fun (name, stats) =>
      [name, toString stats.successful, toString stats.total, Number.fixedText 1 stats.rate,
        (stats.status s.threshold).mark])

/-! ## Mapping -/

/-- The outcome of a mapping (`print_result`). -/
def mappingLines (a : Mapping.Artifact) : List String :=
  ["✓ Mapping completed for " ++ a.company ++ " (config " ++ a.version ++ ")",
    "   Processed " ++ toString a.mapped ++ "/" ++ toString a.total ++ " fields successfully"] ++
  (if a.errors.isEmpty then []
    else ("⚠ " ++ toString a.errors.length ++ " errors encountered") ::
      a.errors.map fun e => "  - " ++ e)

/-! ## Checks -/

/-- Lists show so many items (`MAX_LIST_ITEMS`). -/
def shownItems : Nat := 3

/-- A value on one line (`format_sample`). -/
def sampleText : Value → String
  | .array items =>
    let shown := "[" ++ String.intercalate " | " ((items.take shownItems).map Value.plain) ++ "]"
    if shownItems < items.length then
      shown ++ " (+" ++ toString (items.length - shownItems) ++ " more)"
    else shown
  | v => v.plain

/-- Some values of a field, and some documents without one. -/
def sampleLines (samples failures : Nat) (documents : List (String × Value)) : List String :=
  let found := documents.filter fun d => !d.2.isNull
  let missing := (documents.filter fun d => d.2.isNull).map Prod.fst
  let shown := String.intercalate ", " (missing.take failures)
  (found.take samples).map (fun d => "    " ++ d.1 ++ ": " ++ sampleText d.2) ++
  (if missing.isEmpty then []
    else if failures < missing.length then
      ["    missing: " ++ shown ++ " (+" ++ toString (missing.length - failures) ++ " more)"]
    else ["    missing: " ++ shown])

/-- How well a field was found. -/
def fieldLines (artifact : Dict Value) (s : Summary) (samples failures : Nat)
    (field : String × FieldStats) : List String :=
  ["", statsLine s field] ++
    match artifact.find? field.1 with
    | some (.object documents) => sampleLines samples failures documents
    | _ => []

/-- How well the fields of an artifact, or one of them, were found. -/
def checkLines (artifact : Dict Value) (s : Summary) (only : Option String)
    (samples failures : Nat) : List String :=
  match only with
  | some name =>
    (s.ranked.filter fun f => f.1 == name).flatMap (fieldLines artifact s samples failures)
  | none =>
    s.ranked.flatMap (fieldLines artifact s samples failures) ++
    ["", workingText s ++ " at " ++ Number.fixedText 0 s.threshold ++ "% threshold"]

/-! ## Trials -/

/-- What a pattern finds in one document. -/
abbrev Trial := String × Except Failure (List String)

/-- Whether anything is found. -/
def hits (t : Trial) : Bool :=
  match t.2 with
  | .ok found => !found.isEmpty
  | .error _ => false

/-- What a pattern finds in one document. -/
def trialLine (t : Trial) : List String :=
  match t.2 with
  | .ok [] => ["✗ " ++ t.1 ++ ": no match"]
  | .ok found => ("✓ " ++ t.1 ++ ": " ++ toString found.length ++ " match(es)") ::
      found.map fun s => "    " ++ Text.quote s
  | .error e => ["⚠ " ++ t.1 ++ ": " ++ e.message]

/-- What a pattern finds in some documents. -/
def trialLines (ts : List Trial) : List String :=
  ts.flatMap trialLine ++
  ["", "Matched " ++ toString (ts.countP hits) ++ "/" ++ toString ts.length ++ " documents"]

/-! ## Detection -/

/-- The company that was recognized in a file, and the one that its directory names
(`Detection`). -/
structure Detection where
  path : Path
  detected : Option String
  expected : Option String
deriving DecidableEq, Repr

namespace Detection

/-- Whether the company was recognized. -/
def correct (d : Detection) : Bool := d.detected.isSome && d.detected == d.expected

/-- Whether the company was recognized, and what was taken for what. -/
def line (d : Detection) : String :=
  if d.correct then "✓ " ++ d.path.text
  else "✗ " ++ d.path.text ++ ": " ++ d.expected.getD "-" ++ " -> " ++ d.detected.getD "-"

/-- What was taken for what. -/
def mismatchLine (d : Detection) : String :=
  "  " ++ d.path.text ++ ": expected '" ++ d.expected.getD "-" ++ "', got '" ++
    d.detected.getD "-" ++ "'"

end Detection

/-- The companies that were recognized. -/
def detectionLines (ds : List Detection) : List String :=
  ds.map fun d => d.path.text ++ ": " ++ d.detected.getD "-"

/-- Mismatches show so many files. -/
def shownMismatches : Nat := 10

/-- How often the company was recognized. -/
def evaluationLines (ds : List Detection) : List String :=
  let correct := ds.countP Detection.correct
  let wrong := ds.filter fun d => !d.correct
  ds.map Detection.line ++
  ["", "Total PDFs: " ++ toString ds.length, "Correct: " ++ toString correct,
    "Accuracy: " ++ Number.fixedText 1 (FieldStats.mk correct ds.length).rate ++ "%"] ++
  (if wrong.isEmpty then []
    else ["", "Mismatches (" ++ toString wrong.length ++ ")"] ++
      (wrong.take shownMismatches).map Detection.mismatchLine)

end PolicyFields.CommandLine
