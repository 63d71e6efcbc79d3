import CommandShell.Script.Interpreter

/-!
# `CommandShell.Script.Programs` — the programs that a script starts

A name without a slash is looked up in the directories of the search path; what is found is started
by a `Starter`.

## Contents
- **Wording.** `describeFault` words a fault of a script's file.
- **Looking up.** `Interpreter.candidates` are the files that a name may mean, and
  `Interpreter.programsOf` those from the first one on that may be executed.
- **Signals.** `Interpreter.receive` is what a signal does to a script.
- **Starting.** `Interpreter.startFirst` starts the first of some files that can be started, and
  `Interpreter.startNamed` the program of a name.
-/

namespace CommandShell

namespace Script

namespace Interpreter

/-! ## Wording -/

/-- The wording of a fault of a script's file: what was missing depends on what was wanted. -/
def describeFault (missing : Text) : Fault → Text
  | .system n => if n = 2 ∨ n = 20 then missing else Fault.describe n
  | fault => fault.message

/-- Whether a fault means that there is no such file. -/
def isAbsence (fault : Fault) : Bool := fault == .noEntry || fault == .notADirectory

/-! ## Looking up -/

/-- The files that a name may mean: itself if there is a slash in it, else one in each directory of
    the search path. -/
def candidates (i : Interpreter) (name : Text) : List Path :=
  if '/' ∈ name then [toBytes name]
  else
    let searchPath := (i.value? Environment.searchPathName).getD []
    (Environment.splitSearchPath (toBytes searchPath)).map fun dir => dir.join (toBytes name)

/-- Of some paths, those from the first on where a file is that may be executed; without one, the
    last fault that means more than an absence. -/
def searchFrom (i : Interpreter) (soFar : Fault) : List Path → Except Fault (List Path)
  | [] => .error soFar
  | path :: rest =>
    match i.world.files.stat i.world.workDir path with
    | .ok n =>
      if n.ownerExecutes then .ok (path :: rest) else searchFrom i .accessDenied rest
    | .error fault => searchFrom i (if isAbsence fault then soFar else fault) rest

/-- The files that may be the program of a name. -/
def programsOf (i : Interpreter) (name : Text) : Except Fault (List Path) :=
  if '/' ∈ name then .ok [toBytes name] else i.searchFrom .noEntry (i.candidates name)

/-- The path of the program of a name, as it would be started. -/
def programPath? (i : Interpreter) (name : Text) : Option Text :=
  if '/' ∈ name then
    if (i.world.files.stat i.world.workDir (toBytes name)).toOption.isSome then some name else none
  else ((i.programsOf name).toOption.bind List.head?).map ofBytes

/-- The script that knows where the program of a name is, if it was looked up on the search path. -/
def remember (i : Interpreter) (name : Text) : Interpreter :=
  if '/' ∈ name ∨ (i.found.lookup name).isSome then i
  else { i with found := i.found ++ ((i.programPath? name).map (name, ·)).toList }

/-! ## Signals -/

/-- The script after a signal for its process. -/
def receive (i : Interpreter) (signal : Nat) : Interpreter :=
  if signal = 0 ∨ i.ignored.contains signal then i
  else match (i.traps.lookup signal).filter fun _ => signal != 9 with
    | some [] => i
    | some _ => { i with pending := signal :: i.pending.filter (· != signal) }
    | none => if signal ∈ Signal.harmless then i else i.quit (.killed signal)

/-- The script after the signals that were on their way to it. They are not for its parts. -/
def receiveAll (i : Interpreter) : Interpreter :=
  if i.isPart then i
  else
    let (own, others) := i.world.signals.partition fun s => s.1 == i.process
    let cleared := { i with world := { i.world with signals := others } }
    own.foldl (fun i s => if i.ending.isSome then i else i.receive s.2) cleared

/-! ## Starting -/

/-- The status after a program could not be started. -/
def startStatus (fault : Fault) : Nat :=
  if isAbsence fault || fault == .tooManyLinks || fault == .nameTooLong then 127 else 126

/-- The interpreter's own path. -/
def interpreterPath : Path := toBytes "/bin/sh".toList

/-- Starts a program and waits for it. What is no program and has no first line that names one is
    taken for a script. -/
def startAt (start : Starter) (i : Interpreter) (replaces : Bool) (program : Path) (name : Text)
    (args : List Text) : Except Fault (Interpreter × ExitStatus) := do
  let world := { i.world with environment := i.environment }
  let run (program : Path) (argv : List Bytes) :=
    start world
      { program := program
        argv := argv
        streams := i.streams.forStart
        ignored := i.ignored ++ (i.traps.filter fun t => t.2 == []).map Prod.fst
        ancestors := if replaces then i.ancestors else i.process :: i.ancestors
        inPlaceOf := if replaces then some i.process else none }
  let (after, streams, status) ←
    match run program ((name :: args).map toBytes) with
    | .error .notAProgram => run interpreterPath (interpreterPath :: program :: args.map toBytes)
    | result => result
  let left := { after with environment := i.world.environment, workDir := i.world.workDir }
  return ({ i with world := left, streams := i.streams.afterStart streams }.receiveAll, status)

/-- Starts the first of some programs that can be started. If none can, the complaint is about the
    last fault that means more than an absence. -/
def startFirst (start : Starter) (i : Interpreter) (replaces : Bool) (name : Text)
    (args : List Text) (soFar : Fault) : List Path → Interpreter × Option ExitStatus
  | [] =>
    ((i.complain (name ++ ": ".toList ++ describeFault "not found".toList soFar)).ended
      (startStatus soFar), none)
  | program :: rest =>
    match i.startAt start replaces program name args with
    | .ok (j, status) => (j, some status)
    | .error fault =>
      startFirst start i replaces name args (if isAbsence fault then soFar else fault) rest

/-- Starts the program of a name. -/
def startNamed (start : Starter) (i : Interpreter) (name : Text) (args : List Text) :
    Interpreter × Option ExitStatus :=
  match i.programsOf name with
  | .ok programs => (i.remember name).startFirst start false name args .noEntry programs
  | .error fault =>
    ((i.complain (name ++ ": ".toList ++ describeFault "not found".toList fault)).ended 127, none)

end Interpreter

end Script

end CommandShell
