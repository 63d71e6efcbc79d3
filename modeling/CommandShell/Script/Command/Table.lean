import CommandShell.Script.Command.Aliases
import CommandShell.Script.Command.Control
import CommandShell.Script.Command.Directory
import CommandShell.Script.Command.Output
import CommandShell.Script.Command.Parameters
import CommandShell.Script.Command.Read
import CommandShell.Script.Command.Signals
import CommandShell.Script.Command.Test
import CommandShell.Script.Parser
import CommandShell.Script.Programs

/-!
# `CommandShell.Script.Command.Table` — the commands by their names

## Contents
- **Names.** `ownCommands` has the commands that act on their own, and `commandNames` also those
  that carry out other commands. `declares` tells the commands whose arguments may be assignments.
- **Descriptions.** `Interpreter.describe` says what a name means to a script, for `runType`,
  `runCommandQuery` and `runHash`.
- **Table.** `actionNamed?` finds what a command does.
-/

namespace CommandShell

namespace Script

/-! ## Names -/

/-- The commands that act on their own. -/
def ownCommands : List (Text × Action) :=
  [([':'], runTrue), ("true".toList, runTrue), ("false".toList, runFalse),
   ("echo".toList, runEcho), ("printf".toList, runPrintf), ("read".toList, runRead),
   ("test".toList, runTest), (['['], runBracket), ("cd".toList, runCd), ("chdir".toList, runCd),
   ("pwd".toList, runPwd), ("export".toList, runExport), ("readonly".toList, runReadonly),
   ("unset".toList, runUnset), ("local".toList, runLocal), ("set".toList, runSet),
   ("shift".toList, runShift), ("getopts".toList, runGetopts), ("alias".toList, runAlias),
   ("unalias".toList, runUnalias), ("kill".toList, runKill), ("trap".toList, runTrap),
   ("exit".toList, runExit), ("return".toList, runReturn), ("break".toList, runSkip .break_),
   ("continue".toList, runSkip .continue_), ("wait".toList, runWait), ("jobs".toList, runJobs),
   ("fg".toList, runResume), ("bg".toList, runResume), ("umask".toList, runUmask),
   ("ulimit".toList, runUlimit), ("times".toList, runTimes)]

/-- The names of all commands that a script carries out itself. -/
def commandNames : List Text :=
  ownCommands.map Prod.fst ++
    ["eval".toList, ['.'], "exec".toList, "command".toList, "type".toList, "hash".toList]

/-- The commands whose arguments may be assignments. -/
def declares (name : Text) : Bool :=
  ["export".toList, "readonly".toList, "local".toList, "alias".toList].contains name

/-! ## Descriptions -/

namespace Interpreter

/-- What a name means to a script, and whether it means anything. -/
def describe (i : Interpreter) (verbose : Bool) (name : Text) : Text × Bool :=
  let line := fun (s : String) => (if verbose then name ++ s.toList else name) ++ ['\n']
  let tracked := fun (s : String) (path : Text) =>
    (if verbose then name ++ s.toList ++ path else path) ++ ['\n']
  if keywords.contains name then (line " is a shell keyword", true)
  else match i.aliases.lookup name with
    | some text =>
      (if verbose then name ++ " is an alias for ".toList ++ text ++ ['\n']
        else "alias ".toList ++ aliasLine (name, text), true)
    | none =>
      if (i.functions.lookup name).isSome then (line " is a shell function", true)
      else if specialCommands.contains name then (line " is a special shell builtin", true)
      else if commandNames.contains name then (line " is a shell builtin", true)
      else match i.found.lookup name, i.programPath? name with
        | some path, _ => (tracked " is a tracked alias for " path, true)
        | none, some path => (tracked " is " path, true)
        | none, none => (if verbose then name ++ ": not found\n".toList else [], false)

/-- Writes what some names mean. Their programs are known from then on. -/
def describeAll (i : Interpreter) (verbose : Bool) : List Text → Interpreter
  | [] => i
  | name :: rest =>
    let (text, isFound) := i.describe verbose name
    let j := (i.ended (if isFound then i.status else 127)).print text
    describeAll (if (i.functions.lookup name).isSome ∨ commandNames.contains name then j
      else j.remember name) verbose rest

end Interpreter

/-- `type`: what names mean. -/
def runType : Action := fun i args => (i.ended 0).describeAll true args

/-- `command` with an option that asks what a name means, or with nothing to carry out. -/
def runCommandQuery : Action := fun i args =>
  i.withLetters "pvV" args fun l =>
    match l.rest with
    | name :: _ =>
      if l.has 'v' ∨ l.has 'V' then (i.ended 0).describeAll (l.has 'V') [name] else i.ended 0
    | [] => i.ended 0

/-- The number of places in the list of programs that have been found. -/
def foundPlaces : Nat := 31

/-- `hash`: looks programs up, forgets them, or lists those that have been found. -/
def runHash : Action := fun i args =>
  i.withLetters "r" args fun l =>
    if l.has 'r' then { i with found := [] }.ended 0
    else if l.rest = [] then
      (i.ended 0).print ((List.range foundPlaces).flatMap fun n =>
        (i.found.filter fun f => nameSum f.1 % foundPlaces = n).flatMap fun f => f.2 ++ ['\n'])
    else
      (i.ended 0).forEach l.rest fun i name =>
        if (i.functions.lookup name).isSome ∨ commandNames.contains name then i
        else if (i.programPath? name).isSome then i.remember name
        else (i.complain (name ++ ": not found".toList)).ended 1

/-! ## Table -/

/-- What the command of a name does. -/
def actionNamed? (name : Text) : Option Action :=
  ownCommands.lookup name <|>
    if name = "type".toList then some runType
    else if name = "command".toList then some runCommandQuery
    else if name = "hash".toList then some runHash
    else none

end Script

end CommandShell
