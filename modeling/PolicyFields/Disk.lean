import PolicyFields.CommandLine.Program
import PolicyFields.Files.PageText

/-!
# Files on disk

* `Disk.snapshot` — the files of the working directory, and those at further paths.
* `Disk.commit` — the changes of a run written to disk.
* `Disk.settingsPath` — where settings are if no file is named.
-/

namespace PolicyFields.Disk

/-- The content of a file; what is no text is a document that shows nothing. -/
def contentOf (bytes : ByteArray) : Content :=
  match String.fromUTF8? bytes with
  | some s => .ofText s
  | none => .pdf (some [])

/-- The names in the text of a path. -/
def namesOf (text : String) : Location := (Path.mk text).segments.filter fun s => !s.isEmpty

/-- The files with an entry of a directory and what is below it, as far as it can be read. -/
partial def withEntry (f : Files) (l : Location) (e : IO.FS.DirEntry) : IO Files := do
  if ← e.path.isDir then
    let mut f := f.set l .directory
    for inner in ← e.path.readDir do
      f ← withEntry f (l ++ [inner.fileName]) inner
    return f
  else
    try return f.set l (.file (contentOf (← IO.FS.readBinFile e.path)))
    catch _ => return f

/-- The files with what is at a location and below it, if there is anything. -/
def withLocation (f : Files) (l : Location) : IO Files := do
  if l.isEmpty || (f.node? l).isSome then return f
  let e : IO.FS.DirEntry := ⟨"/", String.intercalate "/" l⟩
  if ← e.path.pathExists then
    let above := (List.range l.length).map l.take
    withEntry (above.foldl (fun f m => f.set m .directory) f) l e
  else return f

/-- The files with what is at a path and below it. -/
def withPath (f : Files) (p : Path) : IO Files :=
  match f.locate p with
  | .ok l => withLocation f l
  | .error _ => if p.isAbsolute then withLocation f (namesOf p.text) else return f

/-- The files of the working directory. -/
def snapshot : IO Files := do
  let here ← IO.currentDir
  let start := namesOf here.toString
  let mut f := Files.empty start
  for e in ← here.readDir do
    f ← withEntry f (start ++ [e.fileName]) e
  return f

/-- The place of a location on disk. -/
def placeOf (l : Location) : String := "/" ++ String.intercalate "/" l

/-- The files that have become different, written to disk. -/
def commit (before after : Files) : IO Unit := do
  for (l, n) in after.nodes do
    if before.node? l != some n then
      match n with
      | .directory => IO.FS.createDirAll (placeOf l)
      | .file (.text s) => IO.FS.writeFile (placeOf l) s
      | .file (.pdf _) => pure ()

/-- Where settings are if no file is named. -/
def settingsPath : IO Path := do
  let home := (← IO.getEnv "HOME").getD ""
  let config := (← IO.getEnv "XDG_CONFIG_HOME").getD (home ++ "/.config")
  return ((Path.mk config).child "sigex").child "config.json"

end PolicyFields.Disk
