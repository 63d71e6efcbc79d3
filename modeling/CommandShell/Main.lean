import CommandShell.Program.Launch
import CommandShell.Shell.Loop
import CommandShell.World.Standard

/-!
# `CommandShell.Main` — the program

The shell as a program. The standard input is the keyboard, the environment is the process's own,
and the files are those of a tree in memory, which is gone when the program ends.

## Contents
- **Input.** `readAll` reads the standard input to its end, and `readEnvironment` the variables that
  the shell knows.
- **Program.** `main` runs the shell, prints what it printed, and ends with its status.
-/

namespace CommandShell

/-- The directory of the tree that the shell starts in. -/
def startDirectory : Path := Utf8.encode "/tmp".toList

/-- The bytes of an input up to its end, after those read so far. -/
partial def readAll (input : IO.FS.Stream) (sofar : ByteArray) : IO ByteArray := do
  let more ← input.read 4096
  if more.isEmpty then return sofar else readAll input (sofar ++ more)

/-- The variables that the shell knows, as far as they are set. -/
def readEnvironment : IO Environment :=
  Environment.names.filterMapM fun name => do
    let value ← IO.getEnv (String.ofList name)
    return value.map fun v => (name, Utf8.encode v.toList)

/-- Prints bytes. -/
def printBytes (output : IO.FS.Stream) (bs : Bytes) : IO Unit := do
  output.write ⟨bs.toArray⟩
  output.flush

end CommandShell

open CommandShell in
/-- The shell on the standard streams of the process. -/
def main : IO UInt32 := do
  let keys ← readAll (← IO.getStdin) ByteArray.empty
  match World.standard startDirectory (← readEnvironment) with
  | .error _ => return 1
  | .ok w =>
    let session : Session := ⟨w, some (InputEvent.ofBytes keys.data.toList)⟩
    let (w, ending) := Shell.interact Program.launch (keys.size + 1) session
    printBytes (← IO.getStdout) w.stdout.text
    printBytes (← IO.getStderr) w.stderr.text
    return (ending.map fun e => UInt32.ofNat e.status).getD 1
