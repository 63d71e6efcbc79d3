import CommandShell.Script.Run

/-!
# `CommandShell.Script.Start` — the command interpreter as a program

## Contents
- **Variables.** `initial` is a script before its first line.
- **Scripts.** `Interpreter.runScript` carries out a script up to its end, and its trap for that.
- **Program.** `startInterpreter` begins with the arguments of the interpreter and ends with its
  status.
-/

namespace CommandShell

namespace Script

/-! ## Variables -/

/-- The search path of a script whose environment has none. -/
def defaultSearchPath : Text :=
  "/usr/local/sbin:/usr/local/bin:/usr/sbin:/usr/bin:/sbin:/bin".toList

/-- The variables that every script has, with their values. -/
def standardVariables : List (Text × Text) :=
  [(Interpreter.separatorsName, " \t\n".toList), (Interpreter.optionNextName, ['1']),
   ("PS1".toList, "$ ".toList), ("PS2".toList, "> ".toList), ("PS4".toList, "+ ".toList)]

namespace Interpreter

/-- Whether a path leads to the working directory. -/
def leadsHere (i : Interpreter) (path : Text) : Bool :=
  path.head? = some '/' && match i.world.files.enter i.world.workDir (toBytes path) with
    | .ok p => p == i.world.workDir
    | .error _ => false

/-- The script that knows its working directory, by the path in its environment if that leads
    there. -/
def begin_ (i : Interpreter) : Interpreter :=
  i.settle ((i.value? directoryName).filter i.leadsHere)

end Interpreter

/-- The number of the shell's own process. -/
def shellProcess : Nat := 4241

/-- A script before its first line: the variables of its environment and its own, and its
    directory. -/
def initial (w : World) (invocation : Invocation) : Interpreter :=
  let given := (w.environment.filter fun v => isName v.1).map fun v =>
    (v.1, ({ value := some (ofBytes v.2), exported := true } : Variable))
  let path : Text × Variable := (Environment.searchPathName, { value := some defaultSearchPath })
  let number := w.lastProcess + 1
  let i : Interpreter :=
    { world := if invocation.inPlaceOf.isSome then w else { w with lastProcess := number }
      streams := invocation.streams
      self := "sh".toList
      args := []
      process := invocation.inPlaceOf.getD number
      ancestors := invocation.ancestors
      bindings :=
        if (given.lookup Environment.searchPathName).isSome then given else path :: given
      ignored := invocation.ignored }
  let parent := ("PPID".toList, Text.decimal (invocation.ancestors.headD shellProcess))
  ((parent :: standardVariables).foldl (fun i v => i.setValue v.1 v.2) i).begin_

/-! ## Scripts -/

namespace Interpreter

/-- Carries out a script up to its end, and its trap for that. -/
def runScript (meaning : Meaning) (setting : Setting) (feed : Feed) (text : Text)
    (i : Interpreter) : Interpreter :=
  (runFeed meaning setting lineLimit false feed (Source.ofText text) i).1.finish meaning

/-- Carries out what the arguments after the options ask for: a script, a file, or the standard
    input. -/
def runArguments (meaning : Meaning) (i : Interpreter) (isCommand : Bool) (args : List Text) :
    Interpreter :=
  match args with
  | [] =>
    if isCommand then i.fail "-c requires an argument".toList
    else { i with options := i.options.put 's' true }.runScript meaning {} .input []
  | first :: rest =>
    if isCommand then
      let named := { i with self := rest.headD i.self, args := rest.drop 1 }
      if i.has 's' then
        (runText meaning {} first named).1.runScript meaning {} .input []
      else named.runScript meaning { last := true } .text first
    else if i.has 's' then { i with args := args }.runScript meaning {} .input []
    else match i.world.files.openToRead i.world.workDir (toBytes first) with
      | .ok h => { i with self := first, args := rest }.runScript meaning {} (.file h) []
      | .error fault =>
        i.fail ("cannot open ".toList ++ first ++ ": ".toList ++
          describeFault "No such file".toList fault)

end Interpreter

/-! ## Program -/

/-- Runs the interpreter with its arguments, the name it is called by first. -/
def startInterpreter (start : Starter) (w : World) (invocation : Invocation) :
    World × Streams × ExitStatus :=
  let texts := invocation.argv.map ofBytes
  let begun := initial w invocation
  let i := { begun with self := texts.headD [] }
  let last := match Options.read true [] (texts.drop 1) with
    | .error complaint => i.fail complaint
    | .ok r =>
      let told := { i with options := r.options }.print r.shown
      told.runArguments (meaning start scriptLimit) r.isCommand r.rest
  ({ last.world with environment := w.environment, workDir := w.workDir }, last.streams,
    last.exitStatus)

end Script

end CommandShell
