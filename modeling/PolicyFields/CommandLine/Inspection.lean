import PolicyFields.CommandLine.Pipeline
import PolicyFields.Company

/-!
# Looking at artifacts and documents

* `check` — how well the fields of an artifact were found.
* `tryPattern` — what a pattern finds in the first documents of a company.
* `detect` — the companies of files, and of the documents below directories.
-/

namespace PolicyFields.CommandLine

open Extraction (Extractor Finder RuleSet Session Summary)

/-- How well the fields of an artifact were found. -/
def check (around : Surroundings) (named : Option Path) (r : CheckRequest) : Step Unit := do
  let s ← loadSettings around named
  let input ← pathFor "input" r.input r.company s.paths.rawArtifact
  let artifact ← fromFiles .failure fun f => readArtifact f input
  let summary := Summary.ofArtifact artifact s.extraction.threshold
  if let some name := r.field then
    if !summary.fields.contains name then
      fail (.said ("Field '" ++ name ++ "' not found in " ++ input.text))
  say ("Checking " ++ input.text)
  sayAll (checkLines artifact summary r.field r.samples r.failures)

/-- What a pattern finds in some documents. -/
def trials (ex : Extractor) (pattern : String) (group : Nat) :
    List Document → Session Files → List Trial
  | [], _ => []
  | d :: ds, session =>
    let (found, session) := ex.testPattern readDocument d.path pattern group session
    (d.id, found) :: trials ex pattern group ds session

/-- What a pattern finds in the first documents of a company. -/
def tryPattern (around : Surroundings) (named : Option Path) (r : TryRequest) : Step Unit := do
  let s ← loadSettings around named
  let o := extractionOptions s
  if !(Finder.compile o r.pattern r.group).isValid then
    fail (.said ("Pattern does not compile: " ++ r.pattern))
  let documents ← fromFiles .failure fun f =>
    listDocuments f (r.pdfDir.getD (s.paths.companyPdfDir r.company))
  let ex := Extractor.make r.company .empty o false
  sayAll (trialLines (trials ex r.pattern r.group (documents.take r.documents)
    ⟨(← get).files, []⟩))

/-- The name of the directory that a path is in. -/
def directoryName? (p : Path) : Option String :=
  match p.parentComponents?.bind List.getLast? with
  | some (.name s) => some s
  | _ => none

/-- The files that a path stands for: itself, or the documents below it if it is a directory
(`expand_paths`). A path is a text, so that none is refused for not being Unicode. -/
def filesAt (f : Files) (p : Path) : Except Glob.PatternError (List Path) :=
  if f.isDirectory p then f.expand ((p.child "**").child "*.pdf") else .ok [p]

/-- The company of a file. -/
def detection (f : Files) (p : Path) : Detection :=
  ⟨p, (documentText f p).toOption.bind (Company.detect? Company.known),
    (directoryName? p).map Company.ofDirectoryName⟩

/-- The companies of files. -/
def detect (r : DetectRequest) : Step Unit := do
  let paths ← fromFiles .pattern fun f => r.paths.mapM (filesAt f)
  let files := (← get).files
  let detections := paths.flatten.map (detection files)
  if detections.isEmpty then fail (.said "No PDF files found")
  sayAll (if r.evaluate then evaluationLines detections else detectionLines detections)

end PolicyFields.CommandLine
