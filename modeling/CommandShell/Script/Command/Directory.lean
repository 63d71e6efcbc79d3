import CommandShell.Script.Command.Basic

/-!
# `CommandShell.Script.Command.Directory` — the working directory of a script

A script knows its working directory by the path on which it was entered. So the way up leads back
along that path, even if there are symbolic links in it.

## Contents
- **Paths.** `DirectoryPath.extend` follows a path on paper.
- **Entering.** `Interpreter.enter` changes the working directory.
- **Commands.** `runCd` and `runPwd`.
-/

namespace CommandShell

namespace Script

namespace DirectoryPath

/-! ## Paths -/

/-- Follows a part of a path from other parts, the last one first. -/
def follow (above : List Text) (part : Text) : List Text :=
  if part = [] ∨ part = ['.'] then above
  else if part = "..".toList then above.drop 1
  else part :: above

/-- The root of a path: two slashes at its start are not one, but more are. -/
def root (path : Text) : Text :=
  match path with
  | '/' :: '/' :: '/' :: _ => ['/']
  | '/' :: '/' :: _ => "//".toList
  | _ => ['/']

/-- The path that leads from a directory along another path, which may be absolute. -/
def extend (directory path : Text) : Text :=
  let absolute := path.head? = some '/'
  let above := if absolute then [] else (Text.splitOn '/' directory).foldl follow []
  let all := (Text.splitOn '/' path).foldl follow above
  (if absolute then root path else root directory) ++ List.intercalate ['/'] all.reverse

example : extend "/a/b".toList "../c/./d//".toList = "/a/c/d".toList ∧
    extend "/a".toList "//b/..".toList = "//".toList := by decide

end DirectoryPath

namespace Interpreter

/-! ## Entering -/

/-- The name of the variable that holds the working directory. -/
def directoryName : Text := "PWD".toList

/-- The name of the variable that holds the working directory before. -/
def formerName : Text := "OLDPWD".toList

/-- The script with a variable that programs see. -/
def publish (i : Interpreter) (name value : Text) : Interpreter :=
  i.change name fun v => { v with value := some value, exported := true }

/-- The path of the working directory without symbolic links; nothing and a complaint, if it has
    been removed. -/
def physical (i : Interpreter) : Interpreter × Text :=
  match i.world.workDir.path? with
  | some path => (i, ofBytes path)
  | none => (i.complain "getcwd() failed: No such file or directory".toList, [])

/-- The script that knows its working directory by a path; without one, by the path that has no
    symbolic links. -/
def settle (i : Interpreter) (path : Option Text) : Interpreter :=
  let (j, directory) := match path with
    | some directory => (i, directory)
    | none => i.physical
  { j with directory := directory }.publish directoryName directory

/-- Changes the working directory, if the path leads to one. -/
def enter (i : Interpreter) (logical : Bool) (path : Text) : Option Interpreter :=
  let known := if logical && (path.head? = some '/' || i.directory != []) then
      some (DirectoryPath.extend i.directory path)
    else none
  match i.world.files.enter i.world.workDir (toBytes (known.getD path)) with
  | .error _ => none
  | .ok p =>
    let j := { i with world := { i.world with workDir := p } }.publish formerName i.directory
    some (if j.ending.isSome then j else j.settle known)

/-! ## Commands -/

/-- The last of the letters that say whether symbolic links count. -/
def isPhysical (l : Letters) : Bool := (l.given.getLast?.map Prod.fst) == some 'P'

/-- The paths that a target may mean, with those of the search path for directories; whether it is
    shown where it leads. -/
def directoriesFor (i : Interpreter) (target : Text) : List (Text × Bool) :=
  let isDotted := [".".toList, "..".toList].contains ((Text.splitOn '/' target).headD [])
  let searched := match i.value? "CDPATH".toList with
    | none => []
    | some s =>
      (Text.splitOn ':' s).map fun dir =>
        (if dir = [] then target else if dir.getLast? = some '/' then dir ++ target
          else dir ++ '/' :: target, dir != [])
  (if target.head? = some '/' ∨ isDotted then [] else searched.filter fun p =>
    ((i.world.files.stat i.world.workDir (toBytes p.1)).toOption.map Node.isDirectory) == some true)
    ++ [(target, false)]

end Interpreter

/-- `cd`: another working directory; the home directory, if none is given, and with a minus sign the
    one before. -/
def runCd : Action := fun i args =>
  i.withLetters "LP" args fun l =>
    let given := l.rest.head?
    let back := given = some ['-']
    let wanted := match given with
      | none => (i.value? Environment.homeName).getD []
      | some s => if back then (i.value? Interpreter.formerName).getD [] else s
    let places := i.directoriesFor (if wanted = [] then ['.'] else wanted)
    let (target, found) := places.headD ([], false)
    match i.enter (!Interpreter.isPhysical l) target with
    | none => i.fail ("can't cd to ".toList ++ wanted)
    | some j =>
      if j.ending.isSome then j
      else (j.ended 0).print (if back || found then j.directory ++ ['\n'] else [])

/-- `pwd`: the working directory. -/
def runPwd : Action := fun i args =>
  i.withLetters "LP" args fun l =>
    let (j, directory) := if Interpreter.isPhysical l then i.physical else (i, i.directory)
    (j.ended 0).print (directory ++ ['\n'])

end Script

end CommandShell
