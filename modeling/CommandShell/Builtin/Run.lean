import CommandShell.Builtin.Basic
import CommandShell.World.Basic
import CommandShell.World.Search

/-!
# `CommandShell.Builtin.Run` — carrying out a builtin

What a builtin does is decided first, from the files and the working directory, and then delivered
to its two streams. A builtin writes at most one line, to one stream.

## Contents
- **Reports.** `Report`: the text for each stream, the working directory afterwards, and whether the
  shell goes on. `Builtin.run` makes the report.
- **Delivery.** `Report.deliver` to two outputs in memory, and `World.deliver` to the sinks of a
  command. Both stop at the first fault.
-/

namespace CommandShell

/-- Whether the shell goes on after a command. -/
inductive Flow where
  | goOn
  | exit
  deriving DecidableEq, Repr

/-- What a builtin does. -/
structure Report where
  flow : Flow := .goOn
  out : Text := []
  err : Text := []
  workDir : Position
  event : Option Event := none
  deriving DecidableEq

namespace Builtin

/-! ## Reports -/

/-- `echo`: the arguments, with a space between each two. -/
def runEcho (wd : Position) (args : List Text) : Report :=
  { out := List.intercalate [' '] args ++ ['\n'], workDir := wd }

/-- `pwd`: the working directory, on the standard error if it has been removed. -/
def runPwd (wd : Position) : Report :=
  match wd.path? with
  | some p => { out := Utf8.lossy p ++ ['\n'], workDir := wd }
  | none =>
    { err := "pwd: error getting current directory: ".toList ++ Fault.noEntry.message ++ ['\n'],
      workDir := wd }

/-- `cd`: another working directory. Whatever the fault, the message is the same, and goes to the
    standard output. -/
def runCd (settings : Settings) (fs : FileSystem) (wd : Position) (args : List Text) : Report :=
  let arg := args.headD []
  let target := homeTarget settings.home arg
  match fs.enter wd target with
  | .ok p => { workDir := p, event := some (.moved target) }
  | .error _ =>
    { out := "cd: ".toList ++ arg ++ ": No such file or directory\n".toList, workDir := wd }

/-- What `type` knows about a name. -/
inductive Kind where
  | builtin
  | program (path : Path)
  | unknown
  deriving DecidableEq, Repr

/-- What a name stands for: builtins come before programs. -/
def kindOf (settings : Settings) (fs : FileSystem) (wd : Position) (name : Text) : Kind :=
  if (ofName? name).isSome then .builtin
  else match fs.findExecutable wd settings.searchPath name with
    | some path => .program path
    | none => .unknown

/-- How `type` words its answer. -/
def Kind.describe (name : Text) : Kind → Text
  | .builtin => name ++ " is a shell builtin".toList
  | .program path => name ++ " is ".toList ++ Utf8.lossy path
  | .unknown => name ++ ": not found".toList

/-- `type`: what its first argument stands for. -/
def runType (settings : Settings) (fs : FileSystem) (wd : Position) (args : List Text) : Report :=
  match args.head? with
  | none => { out := "type: missing argument\n".toList, workDir := wd }
  | some name => { out := (kindOf settings fs wd name).describe name ++ ['\n'], workDir := wd }

/-- What a builtin does. -/
def run (b : Builtin) (settings : Settings) (fs : FileSystem) (wd : Position) (args : List Text) :
    Report :=
  match b with
  | .echo => runEcho wd args
  | .exit => { flow := .exit, workDir := wd }
  | .type => runType settings fs wd args
  | .pwd => runPwd wd
  | .cd => runCd settings fs wd args

end Builtin

/-! ## Delivery -/

/-- The end of a delivery. -/
def Report.outcome (r : Report) : Option Fault → Except Failure Flow
  | some fault => .error (.io fault)
  | none => .ok r.flow

/-- Delivers a report to two outputs. -/
def Report.deliver (r : Report) (out err : Output) : Output × Output × Except Failure Flow :=
  match out.write (Utf8.encode r.out) with
  | (out, some fault) => (out, err, r.outcome (some fault))
  | (out, none) =>
    let (err, fault) := err.write (Utf8.encode r.err)
    (out, err, r.outcome fault)

namespace World

/-- Writes a text to each of two sinks and flushes both; stops at the first fault. -/
def writeBoth (w : World) (out err : Sink) (outText errText : Bytes) : World × Option Fault :=
  match w.write out outText with
  | (w, _, some fault) => (w, some fault)
  | (w, out, none) =>
    match w.write err errText with
    | (w, _, some fault) => (w, some fault)
    | (w, err, none) =>
      match w.flush out with
      | (w, some fault) => (w, some fault)
      | (w, none) => w.flush err

/-- Delivers a report to the sinks of a command. -/
def deliver (w : World) (r : Report) (out err : Sink) : World × Except Failure Flow :=
  let moved := { w with workDir := r.workDir }
  let logged := (r.event.map moved.log).getD moved
  let (written, fault) := logged.writeBoth out err (Utf8.encode r.out) (Utf8.encode r.err)
  (written, r.outcome fault)

end World

end CommandShell
