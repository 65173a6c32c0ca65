import PolicyFields.Files.JsonFile
import PolicyFields.Settings

/-!
# The settings file

* `Settings.load` — the settings in a file; members that are not there have their usual values.
* `Settings.save` — settings written in the order of their members.
-/

namespace PolicyFields.Settings

/-- The settings in a file (`from_file`). -/
def load (f : Files) (p : Path) : Except Failure Settings := readJsonFile Settings.read f p

/-- Settings written to a file, whose directory must be there (`save`). -/
def save (s : Settings) (f : Files) (p : Path) : Except Failure Files :=
  (f.write p (.text s.toValue.pretty)).mapError .file

end PolicyFields.Settings
