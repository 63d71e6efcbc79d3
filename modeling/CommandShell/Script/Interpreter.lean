import CommandShell.Program.Status
import CommandShell.Script.Options
import CommandShell.Script.Streams

/-!
# `CommandShell.Script.Interpreter` — the state of a running script

What a script knows and holds between two of its commands, and how it writes and reads.

## Contents
- **Programs.** `Invocation` and `Starter`: how a script starts another program.
- **State.** `Interpreter`, with its variables, its status, what it is passing over, and its end.
- **Writing.** `Interpreter.writeTo` a descriptor; `Interpreter.complain`, `Interpreter.fail` and
  others on the standard error, and `Interpreter.print` for a command's output.
- **Reading.** `Interpreter.unread` and `Interpreter.advance`.
- **Variables.** `Interpreter.assign`, and the environment of programs.
-/

namespace CommandShell

namespace Script

/-! ## Programs -/

/-- A program to start: its file, its arguments with the name it is called by in front, and its open
    files. -/
structure Invocation where
  program : Path
  argv : List Bytes
  streams : Streams
  /-- The signals that do nothing to it. -/
  ignored : List Nat := []
  /-- The numbers of the processes that wait for it, the one that starts it first. -/
  ancestors : List Nat := []
  /-- The number of the process whose place it takes. -/
  inPlaceOf : Option Nat := none
  deriving DecidableEq

/-- Starts a program and waits for it. -/
abbrev Starter := World → Invocation → Except Fault (World × Streams × ExitStatus)

/-! ## State -/

/-- How a script ends. -/
inductive Ending where
  /-- With a number. -/
  | exit (n : Nat)
  /-- With a number, because of a failure that a command may survive. -/
  | failure (n : Nat)
  /-- Another program has taken its place, and has ended. -/
  | replaced (status : ExitStatus)
  /-- By a signal. -/
  | killed (signal : Nat)
  deriving DecidableEq, Repr

/-- What the commands are passed over for. -/
inductive Skip where
  /-- The end of so many loops. -/
  | break_ (loops : Nat)
  /-- The next turn of the last of so many loops. -/
  | continue_ (loops : Nat)
  /-- The end of a function or of a script that was read in. -/
  | return_
  deriving DecidableEq, Repr

/-- A variable. -/
structure Variable where
  value : Option Text := none
  /-- Whether programs see it. -/
  exported : Bool := false
  /-- Whether it keeps its value for ever. -/
  fixed : Bool := false
  deriving DecidableEq, Repr

/-- What a function gives back at its end. -/
structure Frame where
  bindings : List (Text × Option Variable) := []
  options : Option Options := none
  deriving DecidableEq, Repr

/-- A running script. -/
structure Interpreter where
  world : World
  streams : Streams
  /-- The name that the script goes by. -/
  self : Text
  /-- The number of its process. -/
  process : Nat := 0
  /-- The numbers of the processes that wait for it, the one that started it first. -/
  ancestors : List Nat := []
  /-- The positional parameters. -/
  args : List Text
  bindings : List (Text × Variable) := []
  functions : List (Text × Statement) := []
  aliases : List (Text × Text) := []
  /-- The options that are on. -/
  options : Options := []
  /-- What is carried out when a signal comes; 0 stands for the end of the script. -/
  traps : List (Nat × Text) := []
  /-- Whether this is a part of a script, with a state of its own. -/
  isPart : Bool := false
  /-- The signals that do nothing, and never will. -/
  ignored : List Nat := []
  /-- The signals that have come and whose traps have not been carried out. -/
  pending : List Nat := []
  /-- The number in which the last command ended. -/
  status : Nat := 0
  /-- The number in which the command before the trap being carried out ended. -/
  trapStatus : Option Nat := none
  /-- The number in which the last script inside a word ended. -/
  outputStatus : Nat := 0
  /-- The line being carried out. -/
  line : Nat := 0
  /-- The command being carried out, which complaints name. -/
  within : Option Text := none
  /-- The path of the working directory, as it was entered. -/
  directory : Text := []
  /-- The number of loops being carried out. -/
  loops : Nat := 0
  /-- The functions being carried out. -/
  frames : List Frame := []
  /-- The numbers of the processes in the background, the last one first, and how they ended. -/
  jobs : List (Nat × ExitStatus) := []
  /-- Where the programs of some names have been found. -/
  found : List (Text × Text) := []
  /-- The bits that a new file does not get. -/
  mask : Nat := 0o022
  /-- The number of the argument that is looked at next for options. -/
  optionNext : Nat := 1
  /-- How many characters of the argument before that one have been looked at, if there are more. -/
  optionPlace : Option Nat := none
  skip : Option Skip := none
  /-- The end of the script, once it has come. -/
  ending : Option Ending := none

namespace Interpreter

/-- Whether commands are passed over. -/
def isHalted (i : Interpreter) : Bool := i.ending.isSome || i.skip.isSome

/-- The script with the status of its last command. -/
def ended (i : Interpreter) (status : Nat) : Interpreter := { i with status := status }

/-- The script at its end. -/
def quit (i : Interpreter) (e : Ending) : Interpreter :=
  let status := match e with
    | .exit n | .failure n => n
    | .replaced s => s.number
    | .killed n => (ExitStatus.signal n).number
  { i with ending := some e, status := status }

/-- Whether an option is on. -/
def has (i : Interpreter) (letter : Char) : Bool := i.options.has letter

/-! ## Writing -/

/-- Writes to a channel. -/
def writeToChannel (i : Interpreter) (n : Nat) (s : Text) : Interpreter × Option Fault :=
  let moved := fun (world : World) (c : Channel) =>
    { i with world := world, streams := i.streams.set n c }
  match i.streams.channels[n]? with
  | some (.output sink) =>
    let (world, sink, fault) := i.world.write sink (toBytes s)
    (moved world (.output sink), fault)
  | some (.update h) =>
    let (files, h, fault) := i.world.files.write h (toBytes s)
    (moved { i.world with files := files } (.update h), fault)
  | some (.gathered text) => (moved i.world (.gathered (text ++ s)), none)
  | _ => (i, some .badDescriptor)

/-- Writes to a descriptor. -/
def writeTo (i : Interpreter) (descriptor : Nat) (s : Text) : Interpreter × Option Fault :=
  match i.streams.index? descriptor with
  | none => (i, some .badDescriptor)
  | some n => i.writeToChannel n s

/-- Writes a line to the standard error. -/
def tell (i : Interpreter) (line : Text) : Interpreter := (i.writeTo 2 (line ++ ['\n'])).1

/-- Writes a message to the standard error, with the script's name and line and the command in
    front. -/
def complain (i : Interpreter) (message : Text) : Interpreter :=
  let within := (i.within.map (· ++ ": ".toList)).getD []
  i.tell (i.self ++ ": ".toList ++ Text.decimal i.line ++ ": ".toList ++ within ++ message)

/-- Ends the script with a complaint; a command may survive that. -/
def fail (i : Interpreter) (message : Text) : Interpreter :=
  (i.complain message).quit (.failure 2)

/-- Writes a line to the standard error that says by which signal a program was ended. An
    interruption and a broken pipe go without saying. -/
def reportEnd (i : Interpreter) : ExitStatus → Interpreter
  | .code _ => i
  | .signal n =>
    if n = Signal.interrupt ∨ n = Signal.brokenPipe then i else i.tell (Signal.describe n)

/-- Writes the output of the command being carried out; a fault makes it fail. -/
def print (i : Interpreter) (output : Text) : Interpreter :=
  if output = [] then i
  else match i.writeTo 1 output with
    | (i, none) => i
    | (i, some _) =>
      (i.complain ((i.within.getD []) ++ ": I/O error".toList)).ended (i.status ||| 1)

/-! ## Reading -/

/-- What is still to be read from a descriptor. -/
def unread (i : Interpreter) (descriptor : Nat) : Text :=
  ((i.streams.channel? descriptor).map (Channel.unread i.world.files)).getD []

/-- The script after so many characters have been read from a descriptor. -/
def advance (i : Interpreter) (descriptor n : Nat) : Interpreter :=
  match i.streams.index? descriptor with
  | none => i
  | some k =>
    match i.streams.channels[k]? with
    | none => i
    | some c => { i with streams := i.streams.set k (c.advance n) }

/-! ## Variables -/

/-- A variable. -/
def named? (i : Interpreter) (name : Text) : Option Variable := i.bindings.lookup name

/-- The value of a variable. -/
def value? (i : Interpreter) (name : Text) : Option Text := (i.named? name).bind Variable.value

/-- The script with a variable, or without it. -/
def put (i : Interpreter) (name : Text) (v : Option Variable) : Interpreter :=
  { i with
    bindings := v.toList.map (name, ·) ++ i.bindings.filter fun v => v.1 != name }

/-- The script with a variable changed, unless the variable keeps its value for ever. -/
def change (i : Interpreter) (name : Text) (f : Variable → Variable) : Interpreter :=
  if !isName name then i.fail (name ++ ": bad variable name".toList)
  else
    let v := (i.named? name).getD {}
    if v.fixed then i.fail (name ++ ": is read only".toList) else i.put name (some (f v))

/-- The name of the variable that counts the arguments that were looked at for options. -/
def optionNextName : Text := "OPTIND".toList

/-- The script with a value for a variable, and nothing else changed but what is known from an older
    search path. -/
def setValue (i : Interpreter) (name value : Text) : Interpreter :=
  let changed := i.change name fun v =>
    { v with value := some value, exported := v.exported || i.has 'a' }
  if name = Environment.searchPathName then { changed with found := [] } else changed

/-- The script with a value for a variable. A count of arguments takes effect. -/
def assign (i : Interpreter) (name value : Text) : Interpreter :=
  if name = optionNextName then
    match natural? value with
    | some n => { i.setValue name value with optionNext := max n 1, optionPlace := none }
    | none => i.fail ("Illegal number: ".toList ++ value)
  else i.setValue name value

/-- The script with several values. -/
def assignAll (i : Interpreter) (as : List (Text × Text)) : Interpreter :=
  as.foldl (fun i a => if i.ending.isSome then i else i.assign a.1 a.2) i

/-- The script with a mark on a variable. -/
def mark (i : Interpreter) (name : Text) (f : Variable → Variable) : Interpreter :=
  if !isName name then i.fail (name ++ ": bad variable name".toList)
  else i.put name (some (f ((i.named? name).getD {})))

/-- The variables that programs see, with their values. -/
def environment (i : Interpreter) : Environment :=
  i.bindings.filterMap fun v =>
    if v.2.exported then v.2.value.map fun value => (v.1, toBytes value) else none

end Interpreter

end Script

end CommandShell
