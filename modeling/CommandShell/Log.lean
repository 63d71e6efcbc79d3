import CommandShell.Fault
import CommandShell.Line.Command
import CommandShell.Program.Status
import CommandShell.Settings
import CommandShell.Text.Quoted

/-!
# `CommandShell.Log` — what the log says

Everything that is worth a line in the log, and the wording of that line. The console belongs to
the prompt and to the commands, so these lines go to a file only.

## Contents
- **Events.** `Event`, with its level and, for debugging events, the part of the shell it is from.
- **Wording.** `Event.message`; commands, characters and bytes are shown quoted.
- **Lines.** `Event.line`, and `Event.isLogged`, whether a level includes an event.
-/

namespace CommandShell

/-! ## Events -/

/-- Something worth a line in the log. -/
inductive Event where
  /-- Logging has begun. -/
  | started (file : Path) (level : Level)
  /-- The search path has been scanned. -/
  | scanned (programs entries : Nat)
  /-- A directory of the search path could not be listed. -/
  | skipped (dir : Path) (cause : Fault)
  /-- A control character without a function was typed. -/
  | keyIgnored (c : Char)
  /-- Bytes that are no character were typed. -/
  | bytesDiscarded (part : Bytes)
  /-- A command is about to be carried out. -/
  | dispatched (command : Command)
  /-- A redirection of the named command could not be opened. -/
  | targetRefused (name : Text) (failure : Failure)
  /-- A program could not be started. -/
  | startFailed (program : Path) (cause : Fault)
  /-- The program of a command ended without success. -/
  | programFailed (name : Text) (status : ExitStatus)
  /-- The working directory has changed. -/
  | moved (target : Path)
  /-- A read failed, but another may follow. -/
  | readFailed (failure : Failure)
  /-- Ctrl+C ends the shell. -/
  | interrupted
  /-- A command ends the shell. -/
  | exited
  deriving DecidableEq, Repr

namespace Event

/-- How grave an event is. -/
def level : Event → Level
  | .started _ _ | .scanned _ _ | .interrupted | .exited => .info
  | .targetRefused _ _ | .startFailed _ _ | .readFailed _ => .warn
  | .skipped _ _ | .keyIgnored _ | .bytesDiscarded _ | .dispatched _ | .programFailed _ _
  | .moved _ => .debug

/-- The part of the shell that a debugging event is from. -/
def origin : Event → Text
  | .skipped _ _ => "registry".toList
  | .keyIgnored _ | .bytesDiscarded _ => "editor".toList
  | .moved _ => "commands".toList
  | _ => "dispatch".toList

/-! ## Wording -/

/-- A target of a command. -/
def quotedTarget : Option Path → Text
  | none => "None".toList
  | some p => "Some(".toList ++ Quoted.path p ++ ")".toList

/-- All of a command. -/
def quotedCommand (c : Command) : Text :=
  "ParsedCommand \x7b name: ".toList ++ Quoted.text c.name ++
  ", args: ".toList ++ Quoted.bracketed (c.args.map Quoted.text) ++
  ", stdout_target: ".toList ++ quotedTarget c.stdout ++
  ", stderr_target: ".toList ++ quotedTarget c.stderr ++
  ", append: ".toList ++ (if c.append then "true".toList else "false".toList) ++ " \x7d".toList

/-- The wording of an event. -/
def message : Event → Text
  | .started file level =>
    "logging to ".toList ++ Utf8.lossy file ++ " at ".toList ++ level.name
  | .scanned programs entries =>
    "registry: ".toList ++ Text.decimal programs ++ " executables from ".toList ++
      Text.decimal entries ++ " search path entries".toList
  | .skipped dir cause =>
    "skipping search path entry ".toList ++ Utf8.lossy dir ++ ": ".toList ++ cause.message
  | .keyIgnored c => "ignoring control key ".toList ++ Quoted.char c
  | .bytesDiscarded part => "discarding invalid input bytes ".toList ++ Quoted.byteList part
  | .dispatched command => "dispatch ".toList ++ quotedCommand command
  | .targetRefused name failure => name ++ ": ".toList ++ failure.message
  | .startFailed program cause =>
    "failed to run ".toList ++ Utf8.lossy program ++ ": ".toList ++ cause.message
  | .programFailed name status => name ++ " exited with ".toList ++ status.message
  | .moved target => "cd: now in ".toList ++ Utf8.lossy target
  | .readFailed failure => "line editor: ".toList ++ failure.message
  | .interrupted => "interrupted, exiting".toList
  | .exited => "exit".toList

/-! ## Lines -/

/-- The line of an event, laid out as `simplelog` documents it for its default configuration, but without
    the time. Debugging events name the thread, of which there is one, and the part of the shell. -/
def line (e : Event) : Text :=
  "[".toList ++ e.level.name ++ "] ".toList ++
    (if e.level = .debug then "(1) myshell::".toList ++ e.origin ++ ": ".toList else []) ++
    e.message ++ ['\n']

/-- Whether a log of a level includes an event. -/
def isLogged (level : Level) (e : Event) : Bool := e.level.rank ≤ level.rank

end Event

end CommandShell
