import PolicyFields.CommandLine.Pipeline
import PolicyFields.Settings.Keys

/-!
# Looking at settings and changing them

`editSettings` shows the settings or one of them, changes one, or writes the usual ones. A change
that is refused leaves the file as it is.
-/

namespace PolicyFields.CommandLine

open Settings (valueOf)

/-- A complaint about a setting. -/
def complainSetting (e : SettingError) : Complaint := .said e.message

/-- The directories above a path, made where there is nothing. -/
def makeParents (p : Path) : Step Unit := replaceFiles .file fun f => f.makeParents p

/-- Settings written to a file, its directory being made if need be. -/
def writeSettings (s : Settings) (p : Path) : Step Unit := do
  makeParents p
  replaceFiles .failure fun f => s.save f p

/-- The usual settings written to a file (`write_defaults`); one that is there is replaced only if
`force` is given. -/
def initSettings (p : Path) (force : Bool) : Step Unit := do
  if (← get).files.has p && !force then
    fail (.said (p.text ++ " already exists; pass --force to replace it"))
  writeSettings .default p
  say ("✓ Wrote default settings to " ++ p.text)

/-- One setting of a file changed (`update_setting`). -/
def changeSetting (p : Path) (name raw : String) : Step Unit := do
  let s ← fromFiles .failure fun f => if f.has p then Settings.load f p else .ok .default
  let changed ← hand complainSetting (s.replace name (valueOf raw))
  writeSettings changed p
  say ("✓ " ++ name ++ " = " ++ (valueOf raw).compact)

/-- The commands on settings. -/
def editSettings (around : Surroundings) (named : Option Path) (r : SettingsRequest) :
    Step Unit := do
  let p := named.getD around.settings
  match r with
  | .display => say (← loadSettings around named).tree.pretty
  | .get key => say (← hand complainSetting ((← loadSettings around named).lookup key)).pretty
  | .init output force => initSettings (output.getD p) force
  | .set key raw => changeSetting p key raw
  | .path =>
    let there := (← get).files.has p
    say (p.text ++ (if there then " [exists]" else " [not created (run 'sigex config init')]"))

end PolicyFields.CommandLine
