import PolicyFields.Disk
import Std.Time.Format
import Std.Time.Zoned

/-!
# The command line

`main` looks at the working directory and at the paths that the arguments name, runs the program on
what it has seen, and writes, prints and exits as the program says.
-/

namespace PolicyFields.CommandLine

/-- What the program prints, with the time since `began` in milliseconds. -/
def printAll (began : Nat) (pieces : List Piece) : IO Unit := do
  for piece in pieces do
    match piece with
    | .text s => IO.print s
    | .elapsed => IO.print (toString ((← IO.monoMsNow) - began) ++ "ms")

/-- The program on the files on disk. -/
def runOnDisk (args : List String) : IO UInt32 := do
  let began ← IO.monoMsNow
  let now ← Std.Time.PlainDateTime.now
  let around : Surroundings :=
    ⟨← Disk.settingsPath, now.format "uuuu-MM-dd'T'HH:mm:ss.SSSSSS"⟩
  let mut files ← Disk.withPath (← Disk.snapshot) around.settings
  for p in pathsInPlay around files args do
    files ← Disk.withPath files p
  let outcome := run around files args
  Disk.commit files outcome.files
  printAll began outcome.printed
  if let some c := outcome.complaint then IO.eprintln ("Error: " ++ c.message)
  if outcome.status = 2 then IO.eprintln "error: the arguments do not fit"
  return outcome.status.toUInt32

end PolicyFields.CommandLine

/-- The program. -/
def main (args : List String) : IO UInt32 := PolicyFields.CommandLine.runOnDisk args
