import CommandShell.Shell.Basic

/-!
# `CommandShell.Shell.Loop` — the interactive loop

A line is read and carried out, again and again, until a command or a key ends the shell or it
cannot go on.

## Contents
- **Endings.** `Ending` with its exit status and the report that is printed for it.
- **Sessions.** `Session` is a world and the keys that are still to come; `Session.step` is one turn
  of the loop, and `Session.run` takes turns until the end, at most so many. A failure that ends
  neither is told on the standard error (`Session.tell`), and a shell that cannot tell it breaks off.
- **Programs.** `Shell.interact`, a whole run of the shell from its start.
-/

namespace CommandShell

/-! ## Endings -/

/-- How a run of the shell ends. -/
inductive Ending where
  /-- By a command or by Ctrl+C. -/
  | left
  /-- The log file could not be opened. -/
  | logRefused (file : Path) (cause : Fault)
  /-- No further line can be read. -/
  | readFailed (failure : Failure)
  /-- A command failed so that the shell cannot go on. -/
  | commandFailed (failure : Failure)
  /-- The message of a failure could not be printed. -/
  | messageRefused (cause : Fault)
  deriving DecidableEq, Repr

namespace Ending

/-- The exit status of the shell. -/
def status : Ending → Nat
  | .left => 0
  | .logRefused _ _ | .readFailed _ | .commandFailed _ => 1
  | .messageRefused _ => 101

/-- The causes of a failure, from the outermost on. -/
def causesOf (failure : Failure) : List Text :=
  failure.message :: (failure.cause?.map Fault.message).toList

/-- A numbered line of a report. -/
def numbered (n : Nat) (cause : Text) : Text :=
  let digits := Text.decimal n
  List.replicate (5 - digits.length) ' ' ++ digits ++ ": ".toList ++ cause ++ ['\n']

/-- A report of what was tried and why it failed. Several causes are numbered. The layout is the one
    that `anyhow` documents for errors with a context. -/
def reportOf (tried : Text) (causes : List Text) : Text :=
  "Error: ".toList ++ tried ++ "\n\nCaused by:\n".toList ++
    match causes with
    | [only] => "    ".toList ++ only ++ ['\n']
    | several => several.zipIdx.flatMap fun c => numbered c.2 c.1

/-- What is printed on the standard error at the end. A message that was refused leaves no report: it
    would be printed where the message could not be. -/
def report : Ending → Text
  | .left | .messageRefused _ => []
  | .logRefused file cause =>
    reportOf ("opening log file ".toList ++ Utf8.lossy file) [cause.message]
  | .readFailed failure => reportOf "line editor".toList (causesOf failure)
  | .commandFailed failure => reportOf "running command".toList (causesOf failure)

end Ending

/-! ## Sessions -/

/-- A world, and the keys that are still to come; no keys at all without a terminal. -/
structure Session where
  world : World
  keys : Option (List InputEvent)
  deriving DecidableEq

namespace World

/-- Prints a text on the standard error. -/
def tell (w : World) (s : Text) : World × Option Fault :=
  let (w, _, fault) := w.write (.console .err) (Utf8.encode s)
  (w, fault)

/-- Prints the message of a failure. -/
def tellFailure (w : World) (failure : Failure) : World × Option Fault :=
  w.tell (failure.message ++ ['\n'])

/-- Shows the prompt. -/
def showPrompt (w : World) (prompt : Text) : World × Option Fault :=
  w.writeAll (.console .out) [Utf8.encode prompt]

end World

namespace Session

/-- The session in another world. -/
def moveTo (x : Session) (w : World) : Session := { x with world := w }

/-- A failure is told, and the loop goes on. If it cannot be told, the shell breaks off. -/
def tell (x : Session) (failure : Failure) : Session × Option Ending :=
  match x.world.tellFailure failure with
  | (w, none) => (x.moveTo w, none)
  | (w, some cause) => (x.moveTo w, some (.messageRefused cause))

/-- The turn of a command: it is carried out, and the shell goes on unless the command ends it. -/
def dispatch (s : Shell) (x : Session) (line : Text) : Session × Option Ending :=
  match s.executeLine x.world line with
  | (w, .ok .goOn) => (x.moveTo w, none)
  | (w, .ok .exit) => (x.moveTo (w.log .exited), some .left)
  | (w, .error failure) =>
    if failure.isFatal then (x.moveTo w, some (.commandFailed failure))
    else (x.moveTo w).tell failure

/-- The turn of a read that failed: the failure is told, and another read follows if one can. -/
def recover (x : Session) (failure : Failure) : Session × Option Ending :=
  if failure.isFatal then (x, some (.readFailed failure))
  else (x.moveTo (x.world.log (.readFailed failure))).tell failure

/-- One turn of the loop: prompt, line, command. -/
def step (s : Shell) (x : Session) : Session × Option Ending :=
  match x.world.showPrompt s.settings.prompt with
  | (w, some fault) => (x.moveTo w).recover (.io fault)
  | (w, none) =>
    match x.keys with
    | none => (x.moveTo w).recover (.terminal .noTerminal)
    | some keys =>
      let (w, r) := s.readLine w keys
      let rest : Session := ⟨w, some r.rest⟩
      match r.ending with
      | .ok (.line line) => rest.dispatch s line
      | .ok .interrupted => (rest.moveTo (w.log .interrupted), some .left)
      | .error failure => rest.recover failure

/-- Takes turns until the end, at most so many; without an ending, the turns were too few. -/
def run (s : Shell) : Nat → Session → Session × Option Ending
  | 0, x => (x, none)
  | turns + 1, x =>
    match x.step s with
    | (y, some ending) => (y, some ending)
    | (y, none) => run s turns y

end Session

/-! ## Programs -/

/-- A whole run of the shell, at most so many turns long. What cannot be printed of the report at its
    end is lost. -/
def Shell.interact (launch : Launcher) (turns : Nat) (x : Session) : World × Option Ending :=
  match Shell.start launch { x.world with hasTerminal := x.keys.isSome } with
  | .error (file, cause) =>
    let ending := Ending.logRefused file cause
    ((x.world.tell ending.report).1, some ending)
  | .ok (w, s) =>
    match (x.moveTo w).run s turns with
    | (y, some ending) => ((y.world.tell ending.report).1, some ending)
    | (y, none) => (y.world, none)

end CommandShell
