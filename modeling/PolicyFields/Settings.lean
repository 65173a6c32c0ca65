import PolicyFields.Files.Path
import PolicyFields.Json.Source
import PolicyFields.Regex.Machine
import PolicyFields.Text.Case

/-!
# Settings

* `Layout` — where configurations, documents and artifacts are, and the paths for one company.
* `Settings` — the layout and how extraction is done; what is not configured has a default.
* `Settings.read`, `Settings.toValue` — settings as JSON, in a fixed order.
-/

namespace PolicyFields

open Json (Source Value Shape readString readBool readNat readFloat)

/-- Where things are (`PathsConfig`). -/
structure Layout where
  configDir : Path
  pdfDir : Path
  outputDir : Path
  mappedDir : Path
deriving DecidableEq, Repr

namespace Layout

/-- The usual places. -/
def default : Layout :=
  ⟨⟨"config"⟩, ⟨"data/00_raw_pdfs"⟩, ⟨"data/02_output"⟩, ⟨"data/03_mapped"⟩⟩

/-- The extraction rules of a company, by its id in small letters (`extraction_config`). -/
def extractionConfig (l : Layout) (company : String) : Path :=
  (l.configDir.child "extraction_patterns").child (Text.lower company ++ ".json")

/-- The mapping rules of a company (`mapping_config`). -/
def mappingConfig (l : Layout) (company : String) : Path :=
  (l.configDir.child "mapping_rules").child (company ++ "_map.json")

/-- The documents of a company (`company_pdf_dir`). -/
def companyPdfDir (l : Layout) (company : String) : Path := l.pdfDir.child company

/-- The raw artifact of a company (`raw_artifact`). -/
def rawArtifact (l : Layout) (company : String) : Path := l.outputDir.child (company ++ ".json")

/-- The mapped artifact of a company (`mapped_artifact`). -/
def mappedArtifact (l : Layout) (company : String) : Path :=
  l.mappedDir.child (company ++ ".json")

/-- A path as JSON. -/
def readPath {σ : Type} [Source σ] (s : σ) : Except Json.Error Path := do
  return ⟨← readString "path string" s⟩

/-- The members of a layout. -/
def shape {σ : Type} [Source σ] : Shape σ Layout :=
  ⟨"PathsConfig", [
    .optional "config_dir" readPath fun p l => { l with configDir := p },
    .optional "pdf_dir" readPath fun p l => { l with pdfDir := p },
    .optional "output_dir" readPath fun p l => { l with outputDir := p },
    .optional "mapped_dir" readPath fun p l => { l with mappedDir := p }]⟩

/-- A layout; what is not configured is as usual. -/
def read {σ : Type} [Source σ] (s : σ) : Except Json.Error Layout := shape.read default s

/-- A layout as JSON. -/
def toValue (l : Layout) : Value :=
  .object [("config_dir", .string l.configDir.text), ("pdf_dir", .string l.pdfDir.text),
    ("output_dir", .string l.outputDir.text), ("mapped_dir", .string l.mappedDir.text)]

end Layout

/-- How extraction is done (`ExtractionSettings`). -/
structure ExtractionSettings where
  /-- The rate, in percent, from which on a field works. -/
  threshold : Float
  /-- The room that a pattern may take. -/
  sizeLimit : Nat
  /-- Whether documents without text are passed over. -/
  continueOnError : Bool
deriving DecidableEq

namespace ExtractionSettings

/-- The usual settings. -/
def default : ExtractionSettings := ⟨80.0, Regex.Options.defaultSizeLimit, false⟩

/-- The members of the settings. -/
def shape {σ : Type} [Source σ] : Shape σ ExtractionSettings :=
  ⟨"ExtractionSettings", [
    .optional "success_threshold" readFloat fun x s => { s with threshold := x },
    .optional "regex_size_limit" readNat fun n s => { s with sizeLimit := n },
    .optional "continue_on_error" readBool fun b s => { s with continueOnError := b }]⟩

/-- The settings; what is not configured is as usual. -/
def read {σ : Type} [Source σ] (s : σ) : Except Json.Error ExtractionSettings :=
  shape.read default s

/-- The settings as JSON. -/
def toValue (s : ExtractionSettings) : Value :=
  .object [("success_threshold", .float s.threshold), ("regex_size_limit", .nat s.sizeLimit),
    ("continue_on_error", .bool s.continueOnError)]

end ExtractionSettings

/-- All settings (`SigexSettings`). -/
structure Settings where
  paths : Layout
  extraction : ExtractionSettings
deriving DecidableEq

namespace Settings

/-- The usual settings. -/
def default : Settings := ⟨.default, .default⟩

/-- The members of the settings. -/
def shape {σ : Type} [Source σ] : Shape σ Settings :=
  ⟨"SigexSettings", [
    .optional "paths" Layout.read fun l s => { s with paths := l },
    .optional "extraction" ExtractionSettings.read fun e s => { s with extraction := e }]⟩

/-- The settings; what is not configured is as usual. -/
def read {σ : Type} [Source σ] (s : σ) : Except Json.Error Settings := shape.read default s

/-- The settings as JSON. -/
def toValue (s : Settings) : Value :=
  .object [("paths", s.paths.toValue), ("extraction", s.extraction.toValue)]

end Settings

end PolicyFields
