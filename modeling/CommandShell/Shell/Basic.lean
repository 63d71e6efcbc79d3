import CommandShell.Dispatch
import CommandShell.Editor.Read

/-!
# `CommandShell.Shell.Basic` — a started shell

What a shell holds from its start to its end, how it starts, and the two things that it does with a
world: read a line and carry out a command.

## Contents
- **Shells.** `Shell`: settings, known names, and the launcher of programs.
- **Commands.** `Shell.execute` and, for a line as it was typed, `Shell.executeLine`.
- **Lines.** `Shell.readLine` reads one line onto the console; the log learns what the editor passed
  over.
- **Start.** `Shell.start` reads the settings, opens the log file and scans the search path.
-/

namespace CommandShell

/-- A started shell. -/
structure Shell where
  settings : Settings
  /-- The names that were known at the start. -/
  registry : Registry
  launch : Launcher

namespace Shell

/-! ## Commands -/

/-- Carries out a command. -/
def execute (s : Shell) (w : World) (c : Command) : World × Except Failure Flow :=
  w.execute s.launch s.settings c

/-- Carries out a line as it was typed. -/
def executeLine (s : Shell) (w : World) (line : Text) : World × Except Failure Flow :=
  s.execute w (Command.ofLine line)

/-! ## Lines -/

/-- The line editor of the shell. -/
def editor (s : Shell) : Editor := ⟨s.registry, s.settings.prompt⟩

end Shell

/-- What the log learns of a notice. -/
def Notice.event : Notice → Event
  | .ignoredKey c => .keyIgnored c
  | .discarded part => .bytesDiscarded part

/-- The world after some events have been logged. -/
def World.logAll (w : World) (events : List Event) : World := events.foldl log w

namespace Shell

/-- Reads a line, with all its echo on the console. -/
def readLine (s : Shell) (w : World) (keys : List InputEvent) : World × Editor.Read :=
  let r := s.editor.readFrom w.stdout 0 keys
  ({ w with stdout := r.output }.logAll (r.notices.map Notice.event), r)

/-! ## Start -/

/-- Opens the log file, if the settings name one, and logs that logging has begun. -/
def openLog (settings : Settings) (w : World) : Except (Path × Fault) World :=
  match settings.logFile with
  | none => .ok w
  | some file =>
    match w.files.openToWrite w.workDir file true with
    | .error cause => .error (file, cause)
    | .ok (files, h) =>
      .ok ({ w with files := files, logger := some ⟨h.location, settings.logLevel⟩ }.log
        (.started file settings.logLevel))

/-- A shell for the settings and the files of a world. -/
def ofWorld (launch : Launcher) (settings : Settings) (w : World) : Shell where
  settings := settings
  registry := w.files.scan w.workDir settings.searchPath
  launch := launch

/-- Starts a shell in a world; the file and the fault, if the log file cannot be opened. -/
def start (launch : Launcher) (w : World) : Except (Path × Fault) (World × Shell) := do
  let settings := Settings.ofEnvironment w.environment
  let w ← openLog settings w
  return (w.logAll (w.files.scanEvents w.workDir settings.searchPath), ofWorld launch settings w)

end Shell

end CommandShell
