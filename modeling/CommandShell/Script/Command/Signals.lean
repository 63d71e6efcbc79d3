import CommandShell.Script.Command.Basic
import CommandShell.Script.Programs

/-!
# `CommandShell.Script.Command.Signals` — signals and what they lead to

## Contents
- **Names.** `SignalName.of` is the name of a signal in scripts, and `SignalName.number?` finds a
  signal.
- **Sending.** `Interpreter.send` sends a signal, and `runKill` is the command for it.
- **Traps.** `runTrap` says what is carried out when a signal comes.
-/

namespace CommandShell

namespace Script

/-! ## Names -/

namespace SignalName

/-- The number of signals, the end of a script among them, which goes by the number 0. -/
def count : Nat := 65

/-- The name of a signal. The ones after the standard signals are counted from both ends. -/
def of (n : Nat) : Text :=
  if n = 0 then "EXIT".toList
  else if n = 16 then "16".toList
  else match Signal.name? n with
    | some name => name
    | none =>
      if n = 34 then "RTMIN".toList
      else if 34 < n ∧ n < 50 then "RTMIN+".toList ++ Text.decimal (n - 34)
      else if 49 < n ∧ n < 64 then "RTMAX-".toList ++ Text.decimal (64 - n)
      else if n = 64 then "RTMAX".toList
      else Text.decimal n

/-- The signal of a number. -/
def byNumber? (s : Text) : Option Nat := (natural? s).filter (· < count)

/-- The signal that a text names, by its number or its name; the first one that counts is given. -/
def number? (first : Nat) (s : Text) : Option Nat :=
  byNumber? s <|>
    (List.range count).find? fun n => first ≤ n && (of n).map Char.toUpper == s.map Char.toUpper

example : number? 1 "rtmax-1".toList = some 63 ∧ number? 1 "exit".toList = none := by decide +kernel

end SignalName

/-! ## Sending -/

namespace Interpreter

/-- Sends a signal to a process. A script knows its own process and those that wait for it, which
    receive their signals afterwards. A part of a script goes by the number of the script. -/
def send (i : Interpreter) (signal : Nat) (process : Text) : Interpreter :=
  let (own, digits) := match process with
    | '-' :: rest => (false, rest)
    | rest => (true, rest)
  if process.head? = some '%' then i.fail ("No such job: ".toList ++ process)
  else i.withNumber digits fun n =>
    if own ∧ n = i.process ∧ !i.isPart then i.receive signal
    else if own ∧ (n = i.process ∨ i.ancestors.contains n) then
      { i with world := { i.world with signals := i.world.signals ++ [(n, signal)] } }
    else (i.complain "No such process\n".toList).ended 1

/-- Fails because of arguments that make no sense. -/
def failKill (i : Interpreter) : Interpreter :=
  i.fail ("Usage: kill [-s sigspec | -signum | -sigspec] [pid | job]... or\n" ++
    "kill -l [exitstatus]").toList

/-- Writes the name of a signal, which may be given as the status of what it ended; without a
    number, all names. -/
def listSignals (i : Interpreter) (args : List Text) : Interpreter :=
  match args with
  | [] =>
    (i.ended 0).print ("0\n".toList ++ (List.range SignalName.count).flatMap fun n =>
      if n = 0 then [] else SignalName.of n ++ ['\n'])
  | s :: _ =>
    i.withNumber s fun n =>
      let signal := if 128 < n then n - 128 else n
      if 0 < signal ∧ signal < SignalName.count then
        (i.ended 0).print (SignalName.of signal ++ ['\n'])
      else i.fail ("invalid signal number or exit status: ".toList ++ s)

/-- Sends a signal to some processes, of which there is at least one. -/
def sendAll (i : Interpreter) (signal : Nat) (processes : List Text) : Interpreter :=
  if processes = [] then i.failKill else (i.ended 0).forEach processes fun i p => i.send signal p

end Interpreter

/-- `kill`: a signal, or else the one that asks a program to end, for each of some processes. -/
def runKill : Action := fun i args =>
  match (args.head?.filter fun a => a.head? == some '-').bind fun a =>
      SignalName.number? 1 (a.drop 1) with
  | some signal => i.sendAll signal (args.drop 1)
  | none =>
    if args.head?.bind List.head? ≠ some '-' then i.sendAll Signal.terminate args
    else
      i.withLetters "ls:" args fun l =>
        match l.text? 's' with
        | none =>
          if l.has 'l' then i.listSignals l.rest else i.sendAll Signal.terminate l.rest
        | some name =>
          match SignalName.number? 1 name with
          | none => i.fail ("invalid signal number or name: ".toList ++ name)
          | some signal =>
            if !l.has 'l' then i.sendAll signal l.rest
            else if l.rest = [] then i.listSignals [] else i.failKill

/-! ## Traps -/

namespace Interpreter

/-- Whether any signal leads to something. -/
def hasTraps (i : Interpreter) : Bool := i.traps.any fun t => t.2 != []

/-- The traps as commands would have to set them. -/
def trapListing (i : Interpreter) : Text :=
  (List.range SignalName.count).flatMap fun n =>
    match i.traps.lookup n with
    | some action => "trap -- ".toList ++ quoted action ++ ' ' :: SignalName.of n ++ ['\n']
    | none => []

/-- Sets the trap of a signal, or takes it back. -/
def setTrap (i : Interpreter) (signal : Nat) (action : Option Text) : Interpreter :=
  { i with traps := (action.map (signal, ·)).toList ++ i.traps.filter fun t => t.1 != signal }

/-- Sets the traps of signals in order, up to one that is not known. -/
def setTraps (i : Interpreter) (action : Option Text) : List Text → Interpreter
  | [] => i.ended 0
  | s :: rest =>
    match SignalName.number? 0 s with
    | some signal => setTraps (i.setTrap signal action) action rest
    | none => (i.tell ("trap: ".toList ++ s ++ ": bad trap".toList)).ended 1

end Interpreter

/-- `trap`: what is carried out when a signal comes. Without an action, or with a minus sign for it,
    nothing is. -/
def runTrap : Action := fun i args =>
  i.withLetters "" args fun l =>
    match l.rest with
    | [] => (i.ended 0).print i.trapListing
    | first :: more =>
      if more = [] ∨ (SignalName.byNumber? first).isSome then i.setTraps none (first :: more)
      else i.setTraps (if first = ['-'] then none else some first) more

end Script

end CommandShell
