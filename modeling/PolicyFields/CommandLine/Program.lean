import PolicyFields.CommandLine.Inspection
import PolicyFields.CommandLine.SettingsEditor

/-!
# The program

`run` does what some arguments ask for: it takes the files before, and gives those after, what is
printed, and how it ends. `pathsInPlay` says where a run may look.
-/

namespace PolicyFields.CommandLine

/-- What has happened when the program ends. -/
structure Outcome where
  status : Nat
  printed : List Piece
  complaint : Option Complaint
  files : Files

/-- The name and the version of the program. -/
def versionLine : String := "sigex 0.1.0"

/-- What is done for a request. -/
def perform (around : Surroundings) (r : Request) : Step Unit :=
  match r.command with
  | .extract a => extract around r.settings a
  | .map a => mapArtifact around r.settings a
  | .check a => check around r.settings a
  | .tryPattern a => tryPattern around r.settings a
  | .batch a => runBatch around r.settings a
  | .detect a => detect a
  | .settings a => editSettings around r.settings a

/-- The paths that a run may follow: those among its arguments and those of the settings. -/
def pathsInPlay (around : Surroundings) (f : Files) (args : List String) : List Path :=
  let named := (read args).toOption.bind Request.settings
  let layout := match (loadSettings around named).run ⟨f, []⟩ with
    | (.ok s, _) => s.paths
    | _ => .default
  (args.flatMap fun a => a.splitOn "=").map Path.mk ++
    [layout.configDir, layout.pdfDir, layout.outputDir, layout.mappedDir]

/-- What is done for some arguments. -/
def run (around : Surroundings) (f : Files) (args : List String) : Outcome :=
  match read args with
  | .error .refused => ⟨2, [], none, f⟩
  | .error .help => ⟨0, [], none, f⟩
  | .error .version => ⟨0, [.text versionLine, .text "\n"], none, f⟩
  | .ok r =>
    match (perform around r).run ⟨f, []⟩ with
    | (.ok (), d) => ⟨0, d.printed, none, d.files⟩
    | (.error c, d) => ⟨1, d.printed, some c, d.files⟩

end PolicyFields.CommandLine
