import PolicyFields.Files.JsonFile
import PolicyFields.Mapping.Artifact

/-!
# Mapping files

* `Config.load` — the mapping configuration in a file.
* `Config.mapFile` — a raw artifact read, mapped and written. If the raw artifact cannot be read,
  nothing is written. What is logged is left out.
-/

namespace PolicyFields.Mapping.Config

/-- The configuration in a file (`from_file_with_options`). -/
def load (o : Regex.Options) (f : Files) (p : Path) : Except ConfigError Config := do
  check o (← readConfigFile readConfig f p)

/-- The raw artifact at `input` mapped and written to `output` (`process_file`); `time` says
when. -/
def mapFile (c : Config) (f : Files) (input output : Path) (time : Option String) :
    Except Failure Artifact × Files :=
  match readArtifact f input with
  | .error e => (.error e, f)
  | .ok raw =>
    let mapped := c.mapArtifact raw
    let (written, f) := writeArtifact f output (mapped.toValue time)
    (written.map fun _ => mapped, f)

end PolicyFields.Mapping.Config
