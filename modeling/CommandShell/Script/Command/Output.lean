import CommandShell.Script.Command.Basic
import CommandShell.Script.Format

/-!
# `CommandShell.Script.Command.Output` — the commands that write

## Contents
- **Formats.** `runPrintf` applies a format to arguments.
- **Lines.** `runEcho` writes its arguments.
-/

namespace CommandShell

namespace Script

/-! ## Formats -/

/-- `printf`: a format applied to arguments. Complaints about them come before the output. -/
def runPrintf : Action := fun i args =>
  i.withLetters "" args fun l =>
    match l.rest with
    | [] => i.fail "usage: printf format [arg ...]".toList
    | format :: args =>
      let result := Format.run format args
      let told := (result.complaints ++ result.failure.toList).foldl Interpreter.complain i
      let status := if result.failure.isSome then 2 else if result.complaints = [] then 0 else 1
      (told.ended status).print result.text

/-! ## Lines -/

/-- `echo`: the arguments, with their escapes replaced, and a line break unless `-n` comes first. -/
def runEcho : Action := fun i args =>
  let bare := args.head? = some "-n".toList
  let result := Format.unescape (List.intercalate [' '] (if bare then args.drop 1 else args))
  (i.ended 0).print (result.text ++ if bare || result.ended then [] else ['\n'])

end Script

end CommandShell
