import PolicyFields.CommandLine.Arguments
import PolicyFields.CommandLine.Console
import PolicyFields.CommandLine.Report
import PolicyFields.Mapping.Processing
import PolicyFields.Settings.File

/-!
# Extracting and mapping

* `loadSettings` — the settings that a command uses.
* `extract`, `mapArtifact` — one stage for one company.
* `runBatch` — both stages for some companies; a company that fails does not stop the others.

No signal interrupts these commands; what an interruption does to a run over documents is said by
`Extractor.extractCorpus`.
-/

namespace PolicyFields.CommandLine

open Extraction (Corpus Extractor RuleSet Session)

/-- The settings of a file if one is named, else those of the usual file if there is one
(`load_settings`). -/
def loadSettings (around : Surroundings) (named : Option Path) : Step Settings :=
  fromFiles .failure fun f =>
    match named with
    | some p => Settings.load f p
    | none => if f.has around.settings then Settings.load f around.settings else .ok .default

/-- The options of extraction patterns. -/
def extractionOptions (s : Settings) : Regex.Options :=
  { Regex.Options.extraction with sizeLimit := s.extraction.sizeLimit }

/-- The options of mapping patterns. -/
def mappingOptions (s : Settings) : Regex.Options :=
  { Regex.Options.plain with sizeLimit := s.extraction.sizeLimit }

/-- The text of a document, read from files. -/
def readDocument (p : Path) (f : Files) : Except DocumentError String × Files :=
  (documentText f p, f)

/-- The fields of a company's documents, of the first `limit` if there is a limit
(`extract_company`). -/
def companyCorpus (f : Files) (s : Settings) (company : String) (pdfDir : Option Path)
    (limit : Option Nat) (continueOnError : Bool) : Except Failure Corpus := do
  let documents ← listDocuments f (pdfDir.getD (s.paths.companyPdfDir company))
  let rules ← (RuleSet.load f (s.paths.extractionConfig company)).mapError .config
  let extractor := Extractor.make company rules (extractionOptions s) continueOnError
  let documents := match limit with
    | some n => documents.take n
    | none => documents
  (extractor.extractCorpus readDocument (fun _ _ => false) documents ⟨f, []⟩).1

/-- The fields of a company's documents extracted and written. -/
def extract (around : Surroundings) (named : Option Path) (r : ExtractRequest) : Step Unit := do
  let s ← loadSettings around named
  let corpus ← fromFiles .failure fun f =>
    companyCorpus f s r.company r.pdfDir r.limit (r.continueOnError || s.extraction.continueOnError)
  let output := r.output.getD (s.paths.rawArtifact r.company)
  onFiles .failure fun f => writeArtifact f output corpus.artifact
  let summary := corpus.summary s.extraction.threshold
  sayAll (extractionLines r.company corpus summary)
  if let some p := r.summary then
    replaceFiles .file fun f => f.write p (.text (statisticsTable summary))
    say ("✓ Summary written to " ++ p.text)
  print [.text ("✓ Saved " ++ output.text ++ " in "), .elapsed, .text "\n"]

/-- A path that is named, else the one that belongs to a company. -/
def pathFor (what : String) (named : Option Path) (company : Option String)
    (usual : String → Path) : Step Path :=
  match named, company with
  | some p, _ => pure p
  | none, some c => pure (usual c)
  | none, none => fail (.said ("Either a company or --" ++ what ++ " is required"))

/-- An artifact mapped by the configuration in a file and written (`load_engine`,
`process_file`). -/
def mapWith (around : Surroundings) (s : Settings) (mapping input output : Path) :
    Step Mapping.Artifact := do
  let c ← fromFiles .config fun f => Mapping.Config.load (mappingOptions s) f mapping
  onFiles .failure fun f => c.mapFile f input output (some around.time)

/-- A raw artifact mapped and written. -/
def mapArtifact (around : Surroundings) (named : Option Path) (r : MapRequest) : Step Unit := do
  let s ← loadSettings around named
  let input ← pathFor "input" r.input r.company s.paths.rawArtifact
  let output ← pathFor "output" r.output r.company s.paths.mappedArtifact
  let mapping ← pathFor "mapping" r.mapping r.company s.paths.mappingConfig
  sayAll (mappingLines (← mapWith around s mapping input output))
  say ("✓ Output saved to " ++ output.text)

/-! ## Several companies -/

/-- What has been done for a company (`Outcome`). -/
structure Done where
  /-- The number of documents, if they have been read. -/
  documents : Option Nat
  mapped : Bool
deriving DecidableEq, Repr

/-- What has been done for a company, on one line. -/
def outcomeLine (company : String) : Except Complaint Done → String
  | .ok d => "  ✓ " ++ company ++ ": " ++
      (match d.documents with
        | some n => toString n ++ " documents"
        | none => "extraction skipped") ++
      (if d.mapped then ", mapped" else ", no mapping config")
  | .error c => "  ✗ " ++ company ++ ": " ++ c.full

/-- The documents of a company extracted and written; none if its raw artifact is to be used. -/
def batchExtract (s : Settings) (r : BatchRequest) (company : String) : Step (Option Nat) := do
  let raw := s.paths.rawArtifact company
  if r.skipExtraction then
    if !(← get).files.has raw then fail (.said ("No raw artifact at " ++ raw.text))
    return none
  else
    let corpus ← fromFiles .failure fun f =>
      companyCorpus f s company none none (r.continueOnError || s.extraction.continueOnError)
    onFiles .failure fun f => writeArtifact f raw corpus.artifact
    return some corpus.documents

/-- Both stages for a company (`process_company`); without a mapping configuration only the
first. -/
def batchCompany (around : Surroundings) (s : Settings) (r : BatchRequest) (company : String) :
    Step Done := do
  let documents ← batchExtract s r company
  let mapping := s.paths.mappingConfig company
  if (← get).files.has mapping then
    let _ ← mapWith around s mapping (s.paths.rawArtifact company) (s.paths.mappedArtifact company)
    return ⟨documents, true⟩
  else return ⟨documents, false⟩

/-- Both stages for some companies, with what they come to. -/
def batchCompanies (around : Surroundings) (s : Settings) (r : BatchRequest) :
    List String → Step (List (String × Except Complaint Done))
  | [] => pure []
  | company :: others => do
    say ("→ " ++ company)
    let outcome ← attempt (batchCompany around s r company)
    return (company, outcome) :: (← batchCompanies around s r others)

/-- Both stages for the companies that are named, or for all that have documents. -/
def runBatch (around : Surroundings) (named : Option Path) (r : BatchRequest) : Step Unit := do
  let s ← loadSettings around named
  let companies ← if r.all then fromFiles .failure fun f => listCompanies f s.paths.pdfDir
    else pure r.companies
  if companies.isEmpty then fail (.said ("No companies found in " ++ s.paths.pdfDir.text))
  say ("ℹ Processing " ++ toString companies.length ++ " companies")
  let outcomes ← batchCompanies around s r companies
  say ""
  sayAll (outcomes.map fun o => outcomeLine o.1 o.2)
  let failed := outcomes.countP fun o => !o.2.isOk
  print [.text ("✓ Processed " ++ toString outcomes.length ++ " companies in "), .elapsed,
    .text (" (" ++ toString failed ++ " failed)\n")]

end PolicyFields.CommandLine
