import CommandShell.Script.Command.Basic
import CommandShell.Script.Numeral

/-!
# `CommandShell.Script.Command.Control` — the commands that direct a script

## Contents
- **Status.** `runTrue` and `runFalse`.
- **Leaving.** `runExit`, `runReturn`, and `runSkip` for the end of loops or of their turns.
- **Processes.** `runWait`, `runJobs` and `runResume` for commands in the background, of which none
  is ever still running.
- **Limits.** `runUmask`, `runUlimit` and `runTimes`.
-/

namespace CommandShell

namespace Script

/-! ## Status -/

/-- Succeeds. -/
def runTrue : Action := fun i _ => i.ended 0

/-- Fails. -/
def runFalse : Action := fun i _ => i.ended 1

/-! ## Leaving -/

/-- `exit`: the end, with a number or with the status of the last command. -/
def runExit : Action := fun i args =>
  match args with
  | [] => i.quit (.exit (i.trapStatus.getD i.status))
  | s :: _ => i.withNumber s fun n => i.quit (.exit (n % 256))

/-- `return`: the end of a function, or of a script that was read in. -/
def runReturn : Action := fun i args =>
  match args with
  | [] => { i with skip := some .return_ }
  | s :: _ => i.withNumber s fun n => { i.ended n with skip := some .return_ }

/-- `break` and `continue`: the end of some loops around, or of their turns. -/
def runSkip (skip : Nat → Skip) : Action := fun i args =>
  let wanted := args.headD ['1']
  i.withNumber wanted fun n =>
    if n = 0 then i.failNumber wanted
    else if i.loops = 0 then i.ended 0
    else { i.ended 0 with skip := some (skip (min n i.loops)) }

/-! ## Processes -/

/-- The script after it has waited for a process in the background. A signal that ended it is worth
    a line only once. -/
def Interpreter.waitFor (i : Interpreter) (process : Nat) : Interpreter :=
  match i.jobs.lookup process with
  | none => i.ended 127
  | some status =>
    let jobs := i.jobs.map fun j => if j.1 = process then (j.1, .code status.number) else j
    ({ i with jobs := jobs }.reportEnd status).ended status.number

/-- `wait`: the status of commands in the background. -/
def runWait : Action := fun i args =>
  i.withLetters "" args fun l =>
    if l.rest = [] then
      { i with jobs := i.jobs.map fun (n, status) => (n, .code (ExitStatus.number status)) }.ended 0
    else
      (i.ended 0).forEach l.rest fun i s =>
        if s.head? = some '%' then i.fail ("No such job: ".toList ++ s)
        else i.withNumber s i.waitFor

/-- `jobs`: no command in the background is worth a line. -/
def runJobs : Action := fun i args => i.withLetters "lp" args fun _ => i.ended 0

/-- `fg` and `bg`: there is nothing to go on with. -/
def runResume : Action := fun i args =>
  i.withLetters "" args fun l =>
    match l.rest with
    | [] => i.fail "No current job".toList
    | s :: _ => i.fail ("No such job: ".toList ++ s)

/-! ## Limits -/

/-- The bits of a mode that the letters for users stand for. -/
def usersMask (s : Text) : Nat :=
  let bits := fun (c : Char) => match c with
    | 'u' => 0o700
    | 'g' => 0o070
    | 'o' => 0o007
    | _ => 0o777
  if s = [] then 0o777 else s.foldl (fun n c => n ||| bits c) 0

/-- The bits that a letter for permissions stands for; some letters stand for what a mode already
    grants. -/
def permissionBits? (mode : Nat) (c : Char) : Option Nat :=
  match c with
  | 'r' => some 0o444
  | 'w' => some 0o222
  | 'x' => some 0o111
  | 'X' => some (if mode &&& 0o111 = 0 then 0 else 0o111)
  | 's' | 't' => some 0
  | 'u' => some ((mode >>> 6 &&& 7) * 0o111)
  | 'g' => some ((mode >>> 3 &&& 7) * 0o111)
  | 'o' => some ((mode &&& 7) * 0o111)
  | _ => none

/-- A mode after operators and permissions have been applied to it, for some users. -/
def applyPermissions? (users before : Nat) : (operator : Option Char) → Nat → Text → Option Nat
  | _, mode, [] => some mode
  | operator, mode, c :: rest =>
    if c ∈ ['=', '+', '-'] then
      applyPermissions? users before (some c)
        (if c = '=' then mode &&& (0o777 ^^^ users) else mode) rest
    else do
      let bits := (← permissionBits? before c) &&& users
      match ← operator with
      | '-' => applyPermissions? users before operator (mode &&& (0o777 ^^^ bits)) rest
      | _ => applyPermissions? users before operator (mode ||| bits) rest

/-- A mode after a change that letters describe: users, then operators and permissions. -/
def changedMode? (mode : Nat) (s : Text) : Option Nat :=
  let users := s.takeWhile fun c => c ∈ ['u', 'g', 'o', 'a']
  applyPermissions? (usersMask users) mode none mode (s.drop users.length)

example : changedMode? 0o755 "go-rx+w".toList = some 0o722 ∧ changedMode? 0o640 "u=g".toList =
    some 0o440 := by decide

/-- The permissions of users, in letters. -/
def modeLetters (mode : Nat) : Text :=
  let letters := fun (user : Char) (shift : Nat) =>
    let letter := fun (bit : Nat) (c : Char) => if (mode >>> shift).testBit bit then [c] else []
    user :: '=' :: letter 2 'r' ++ letter 1 'w' ++ letter 0 'x'
  letters 'u' 6 ++ ',' :: letters 'g' 3 ++ ',' :: letters 'o' 0

/-- `umask`: the permissions that new files do not get. -/
def runUmask : Action := fun i args =>
  i.withLetters "S" args fun l =>
    match l.rest with
    | [] =>
      let digits := Nat.toDigits 8 i.mask
      let shown := if l.has 'S' then modeLetters (0o777 ^^^ i.mask)
        else List.replicate (4 - digits.length) '0' ++ digits
      (i.ended 0).print (shown ++ ['\n'])
    | s :: _ =>
      if s.head?.any Char.isDigit then
        if s.all Numeral.isOctal then
          { i with mask := Numeral.ofDigits 8 s % 0o1000 }.ended 0
        else i.failNumber s
      else match (Text.splitOn ',' s).foldlM changedMode? (0o777 ^^^ i.mask) with
        | some mode => { i with mask := 0o777 ^^^ mode }.ended 0
        | none => i.fail ("Illegal mode: ".toList ++ s)

/-- `ulimit`: there are no limits. -/
def runUlimit : Action := fun i args =>
  i.withLetters "HSatfdsmcnpvlwr" args fun l =>
    if l.rest = [] then (i.ended 0).print "unlimited\n".toList else i.ended 0

/-- `times`: no time is counted. -/
def runTimes : Action := fun i _ =>
  (i.ended 0).print "0m0.000000s 0m0.000000s\n0m0.000000s 0m0.000000s\n".toList

end Script

end CommandShell
