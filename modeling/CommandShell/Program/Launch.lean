import CommandShell.Dispatch
import CommandShell.Script.Start

/-!
# `CommandShell.Program.Launch` — starting programs

The programs of the tree are command scripts and the interpreter that runs them. A script names its
interpreter in its first line; that file is started instead, with the script as an argument, and may
be a script again.

## Contents
- **First lines.** `InterpreterLine.ofContent?` reads the first line of a script.
- **Loading.** `Program.load` follows first lines up to the interpreter, or to a fault. A file that
  is open for writing cannot be started.
- **Starting.** `Program.start` runs a program whose scripts may start programs themselves, to a
  limited depth.
- **Launching.** `Program.launch` is the launcher of the shell. A path without a slash is looked up
  once more, among the directories of the environment's search path.
-/

namespace CommandShell

/-! ## First lines -/

/-- The first line of a script: the program to run it, and one argument at most. -/
structure InterpreterLine where
  program : Path
  argument : Option Bytes
  deriving DecidableEq, Repr

namespace InterpreterLine

/-- The number of bytes at the start of a file that are looked at. -/
def headLimit : Nat := 256

/-- The first bytes of a file; a shorter file is followed by NULs. -/
def head (content : Bytes) : Bytes := (content ++ List.replicate headLimit 0).take headLimit

/-- A space or a tab. -/
def isBlank (b : UInt8) : Bool := b == 0x20 || b == 0x09

/-- Whether a byte ends the name of a program. -/
def endsName (b : UInt8) : Bool := isBlank b || b == 0

/-- The bytes without the blanks at their end. -/
def trimEnd (bs : Bytes) : Bytes := (bs.reverse.dropWhile isBlank).reverse

/-- The program and the argument on a line. All after the name is one argument, up to a NUL. -/
def ofLine? (line : Bytes) : Option InterpreterLine :=
  match (trimEnd line).dropWhile isBlank with
  | [] => none
  | line =>
    let program := line.takeWhile (!endsName ·)
    match line.drop program.length with
    | [] => some ⟨program, none⟩
    | b :: rest =>
      if b = 0 then some ⟨program, none⟩
      else some ⟨program, some ((rest.dropWhile isBlank).takeWhile (· != 0))⟩

/-- The first line of a file, if it starts with a number sign and an exclamation mark and names a
    program. A line that does not end within the head of the file is cut there, but the name of the
    program must be whole. -/
def ofContent? (content : Bytes) : Option InterpreterLine :=
  match head content with
  | 0x23 :: 0x21 :: rest =>
    if (rest.takeWhile (· != 0)).contains 0x0A then ofLine? (rest.takeWhile (· != 0x0A))
    else if (rest.dropWhile isBlank).any endsName then ofLine? rest.dropLast
    else none
  | _ => none

/-- The arguments of the interpreter: its own name, the argument of the first line, and the script
    with its arguments. -/
def argv (l : InterpreterLine) (script : Path) (args : List Bytes) : List Bytes :=
  l.program :: l.argument.toList ++ script :: args

example : ofContent? "#! /bin/sh -e \n:".toUTF8.data.toList =
    some ⟨"/bin/sh".toUTF8.data.toList, some "-e".toUTF8.data.toList⟩ := by decide +kernel

end InterpreterLine

namespace Program

/-! ## Loading -/

/-- What a file is to the system that is to start it. -/
inductive Image where
  | interpreter
  /-- A file of bytes; it may be a script. -/
  | content (bytes : Bytes)
  deriving DecidableEq, Repr

/-- The file of a path, for a start: a regular one that may be executed, and that nobody has open
    for writing. -/
def image (fs : FileSystem) (wd : Position) (written : List Location) (path : Path) :
    Except Fault Image := do
  let (p, n) ← fs.locate wd path
  if n.ownerExecutes = false then .error .accessDenied
  else if written.contains p.location then .error .textFileBusy
  else match n with
    | .file content _ => .ok (.content content)
    | _ => .ok .interpreter

/-- The number of files that may be loaded one after the other: the scripts and the interpreter. -/
def imageLimit : Nat := 6

/-- The arguments with which the interpreter starts for a program, through at most so many files.
    An empty name in a first line stands for the working directory, which is no program. -/
def load (fs : FileSystem) (wd : Position) (written : List Location) :
    Nat → Path → List Bytes → Except Fault (List Bytes)
  | 0, path, _ => do
    let _ ← image fs wd written path
    .error .tooManyLinks
  | files + 1, path, argv => do
    match ← image fs wd written path with
    | .interpreter => .ok argv
    | .content bytes =>
      match InterpreterLine.ofContent? bytes with
      | none => .error .notAProgram
      | some line =>
        if line.program = [] then .error .accessDenied
        else load fs wd written files line.program (line.argv path (argv.drop 1))

/-! ## Starting -/

/-- The number of programs that may run inside each other. -/
def depthLimit : Nat := 64

/-- The files that are open for writing while a program starts. -/
def openFiles (w : World) (streams : Script.Streams) : List Location :=
  (w.logger.map Logger.location).toList ++ streams.written

/-- The number of bytes at which an argument is too long. -/
def argumentLimit : Nat := 131072

/-- Starts a program and waits for it; its scripts may start others, to this depth. -/
def start : Nat → Script.Starter
  | 0 => fun _ _ => .error .unavailable
  | depth + 1 => fun w invocation => do
    if invocation.argv.any fun a => argumentLimit ≤ a.length then .error .argumentTooLong
    let argv ← load w.files w.workDir (openFiles w invocation.streams) imageLimit
      invocation.program invocation.argv
    return Script.startInterpreter (start depth) w { invocation with argv := argv }

/-! ## Launching -/

/-- The search path where an environment has none. -/
def defaultSearchPath : Bytes := Utf8.encode "/bin:/usr/bin".toList

/-- The files that a program's path may mean: itself if there is a slash in it, else one in each
    directory of the environment's search path. -/
def candidates (environment : Environment) (program : Path) : List Path :=
  if Bytes.slash ∈ program then [program]
  else
    (Environment.splitSearchPath
      ((environment.get? Environment.searchPathName).getD defaultSearchPath)).map fun dir =>
        if dir = [] then program else dir ++ [Bytes.slash] ++ program

/-- Starts the first candidate that is there and may be executed. If none can be started, the fault
    is that of the last one, unless an access was denied before. -/
def startFirst (start : Path → Except Fault (World × ExitStatus)) (soFar : Fault) :
    List Path → Except Fault (World × ExitStatus)
  | [] => .error soFar
  | path :: rest =>
    match start path with
    | .ok result => .ok result
    | .error fault =>
      if fault = .accessDenied ∨ fault = .noEntry ∨ fault = .notADirectory then
        startFirst start (if soFar = .accessDenied then soFar else fault) rest
      else .error fault

/-- Whether there is a NUL in what a program is to be given, so that it cannot be. -/
def hasNul (l : Launch) : Bool := l.program.contains 0 || (l.name :: l.args).any (·.contains '\x00')

/-- Starts the programs of the shell. -/
def launch : Launcher := fun w l =>
  if hasNul l then .error .nulInArgument
  else
    startFirst
      (fun path => do
        let input := if w.hasTerminal then .keyboard else .supply []
        let streams := Script.Streams.ofChannels input l.out l.err
        let argv := (l.name :: l.args).map Utf8.encode
        let invocation := { program := path, argv := argv, streams := streams }
        let (world, _, status) ← start depthLimit w invocation
        return (world, status))
      .noEntry (candidates w.environment l.program)

end Program

end CommandShell
