import CommandShell.Script.Command.Basic

/-!
# `CommandShell.Script.Command.Variables` — the commands that change variables

## Contents
- **Lists.** `Interpreter.listing` shows variables as commands that would set them.
- **Marks.** `runExport` and `runReadonly` mark variables, and give them values if asked to.
- **Removing.** `runUnset` removes variables or functions.
- **Functions.** `runLocal` makes the function being carried out give variables back at its end;
  `Interpreter.enterFrame` and `Interpreter.leaveFrame` are its beginning and its end.
-/

namespace CommandShell

namespace Script

namespace Interpreter

/-! ## Lists -/

/-- Some of the variables in order, each on a line of its own after a text. -/
def listing (i : Interpreter) (lead : Text) (selected : Variable → Bool) : Text :=
  let chosen := i.bindings.filter fun v => selected v.2
  (chosen.mergeSort fun a b => !decide (b.1 < a.1)).flatMap fun v =>
    lead ++ v.1 ++ ((v.2.value.map fun s => '=' :: quoted s).getD []) ++ ['\n']

end Interpreter

/-! ## Marks -/

/-- The name in an argument, and the value after an equals sign if there is one. -/
def splitAssignment (s : Text) : Text × Option Text :=
  let name := s.takeWhile (· != '=')
  (name, if '=' ∈ s then some (s.drop (name.length + 1)) else none)

/-- Marks variables, or lists those that are marked. -/
def runMark (lead : Text) (mark : Variable → Variable) (isMarked : Variable → Bool) : Action :=
  fun i args =>
    i.withLetters "p" args fun l =>
      if l.has 'p' ∨ l.rest = [] then (i.ended 0).print (i.listing lead isMarked)
      else
        (i.ended 0).forEach l.rest fun i s =>
          let (name, value) := splitAssignment s
          let j := (value.map (i.assign name)).getD i
          if j.ending.isSome then j else j.mark name mark

/-- `export`: programs see a variable. -/
def runExport : Action :=
  runMark "export ".toList (fun v => { v with exported := true }) Variable.exported

/-- `readonly`: a variable keeps its value for ever. -/
def runReadonly : Action :=
  runMark "readonly ".toList (fun v => { v with fixed := true }) Variable.fixed

/-! ## Removing -/

namespace Interpreter

/-- The script without a variable. -/
def unset (i : Interpreter) (name : Text) : Interpreter :=
  let changed := i.change name id
  if changed.ending.isSome then changed else i.put name none

end Interpreter

/-- `unset`: removes variables or, if asked to, functions; the last letter counts. -/
def runUnset : Action := fun i args =>
  i.withLetters "vf" args fun l =>
    (i.ended 0).forEach l.rest fun i name =>
      if l.given.getLast?.any fun g => g.1 == 'f' then
        { i with functions := i.functions.filter fun f => f.1 != name }
      else i.unset name

/-! ## Functions -/

namespace Interpreter

/-- The script at the beginning of a function. -/
def enterFrame (i : Interpreter) : Interpreter := { i with frames := {} :: i.frames }

/-- The script with a variable that is given back at the end of the function. -/
def keep (i : Interpreter) (name : Text) : Interpreter :=
  match i.frames with
  | [] => i
  | f :: outer =>
    { i with frames := { f with bindings := (name, i.named? name) :: f.bindings } :: outer }

/-- The script at the end of a function. A script that ends keeps what it has. -/
def leaveFrame (i : Interpreter) : Interpreter :=
  match i.frames with
  | [] => i
  | f :: outer =>
    let left := { i with frames := outer }
    if i.ending.isSome then left
    else
      let back := f.bindings.foldl (fun i v => i.put v.1 v.2) left
      { back with options := f.options.getD i.options }

end Interpreter

/-- `local`: variables that the function being carried out gives back; a minus sign stands for the
    options. -/
def runLocal : Action := fun i args =>
  match i.frames with
  | [] => i.fail "not in a function".toList
  | _ :: _ =>
    (i.ended 0).forEach args fun i s =>
      if s = ['-'] then
        { i with frames := i.frames.modify 0 fun f => { f with options := some i.options } }
      else
        let (name, value) := splitAssignment s
        let j := i.keep name
        match value with
        | some text => j.assign name text
        | none => j.mark name id

end Script

end CommandShell
