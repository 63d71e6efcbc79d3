import CommandShell.Log
import CommandShell.Output
import CommandShell.World.Handle

/-!
# `CommandShell.World.Basic` — all that a command can act on

The files, the working directory, the console, the environment of programs, and the log.

## Contents
- **World.** `World`, with one output for each of the two console streams.
- **Log.** `World.log` adds a line to the log file, if there is one and its level includes the
  event.
- **Sinks.** `Sink` is where a stream of a command goes: the console or a file. `World.openSink`
  opens the target of a redirection; `World.write` and `World.flush` act on a sink.
-/

namespace CommandShell

/-! ## World -/

/-- The log file and how much goes into it. -/
structure Logger where
  location : Location
  level : Level
  deriving DecidableEq

/-- All that a command can act on. -/
structure World where
  files : FileSystem
  workDir : Position
  /-- The standard output of the shell and of its programs. -/
  stdout : Output := {}
  /-- The standard error of the shell and of its programs. -/
  stderr : Output := {}
  /-- The variables that programs see. -/
  environment : Environment := []
  /-- Whether the standard input of programs is a terminal. -/
  hasTerminal : Bool := false
  /-- The number of the last process that was started; the shell itself has a number too. -/
  lastProcess : Nat := 4241
  /-- The signals on their way, each with the number of the process it is for. -/
  signals : List (Nat × Nat) := []
  logger : Option Logger := none
  deriving DecidableEq

namespace World

/-- The console's side of a stream. -/
def console (w : World) : Stream → Output
  | .out => w.stdout
  | .err => w.stderr

/-- The world with another state of one console stream. -/
def setConsole (w : World) (s : Stream) (o : Output) : World :=
  match s with
  | .out => { w with stdout := o }
  | .err => { w with stderr := o }

/-! ## Log -/

/-- Adds the line of an event to the log. A line that cannot be written is lost. -/
def log (w : World) (e : Event) : World :=
  match w.logger with
  | none => w
  | some logger =>
    if e.isLogged logger.level then
      let h : Handle := { location := logger.location, append := true }
      { w with files := (w.files.write h (Utf8.encode e.line)).1 }
    else w

end World

/-! ## Sinks -/

/-- Where a stream of a command goes. -/
inductive Sink where
  | console (s : Stream)
  | file (h : Handle)
  deriving DecidableEq

namespace World

/-- Opens the target of a redirection; without one, the stream goes to the console. -/
def openSink (w : World) (stream : Stream) (target : Option Path) (append : Bool) :
    Except Failure (World × Sink) :=
  match target with
  | none => .ok (w, .console stream)
  | some path =>
    match w.files.openToWrite w.workDir path append with
    | .ok (files, h) => .ok ({ w with files := files }, .file h)
    | .error cause => .error (.redirect path cause)

/-- Writes to a sink. -/
def write (w : World) (sink : Sink) (bs : Bytes) : World × Sink × Option Fault :=
  match sink with
  | .console s =>
    let (o, fault) := (w.console s).write bs
    (w.setConsole s o, sink, fault)
  | .file h =>
    let (files, h', fault) := w.files.write h bs
    ({ w with files := files }, .file h', fault)

/-- Flushes a sink. What is written to a file is there at once. -/
def flush (w : World) (sink : Sink) : World × Option Fault :=
  match sink with
  | .console s =>
    let (o, fault) := (w.console s).flush
    (w.setConsole s o, fault)
  | .file _ => (w, none)

/-- Writes pieces to a sink one after the other, and flushes it; stops at the first fault. -/
def writeAll (w : World) (sink : Sink) : List Bytes → World × Option Fault
  | [] => w.flush sink
  | bs :: rest =>
    match w.write sink bs with
    | (w', _, some fault) => (w', some fault)
    | (w', sink', none) => writeAll w' sink' rest

end World

end CommandShell
