import PolicyFields.Failure
import PolicyFields.Files.Store
import PolicyFields.Json.Reader

/-!
# Files that hold JSON

* `readConfigFile` — a configuration file; a missing file, an unreadable one and a malformed one are
  told apart.
* `readArtifact`, `writeArtifact` — results on disk.
-/

namespace PolicyFields

open Json (Tree Value readDict readWhole)

/-- What a reader of a shape makes of a configuration file. -/
def readConfigFile {α : Type} (read : Tree → Except Json.Error α) (f : Files) (p : Path) :
    Except ConfigError α :=
  if f.has p then
    match f.readText p with
    | .error e => .error (.unreadable p e)
    | .ok text => (readWhole read text).mapError (.malformed p)
  else .error (.notFound p)

/-- What a reader of a shape makes of a file. -/
def readJsonFile {α : Type} (read : Tree → Except Json.Error α) (f : Files) (p : Path) :
    Except Failure α := do
  let text ← (f.readText p).mapError .file
  (readWhole read text).mapError .json

/-- An artifact (`load_artifact`): for every field its data. -/
def readArtifact (f : Files) (p : Path) : Except Failure (Dict Value) :=
  readJsonFile (readDict Json.Source.value) f p

/-- A value written to a file, its directory being made if need be (`save_artifact`). -/
def writeArtifact (f : Files) (p : Path) (v : Value) : Except Failure Unit × Files :=
  let (written, f) := f.writeWithParents p (.text v.pretty)
  (written.mapError .file, f)

end PolicyFields
