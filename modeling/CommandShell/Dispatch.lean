import CommandShell.Builtin.Run

/-!
# `CommandShell.Dispatch` — carrying out a command

A command's redirections are opened first, the standard output before the standard error; if one
cannot be opened, nothing else happens. Then a builtin is carried out, or a program is started.

## Contents
- **Launching.** `Launch` is a program to start, and a `Launcher` starts one; what a program does is
  no business of the dispatch.
- **Routes.** `Settings.route` says what a name leads to: a builtin, the path of a program, or
  nothing. A name with a slash is a path itself.
- **Dispatch.** `World.execute` carries out a command. A program that cannot be started counts as
  not found.
-/

namespace CommandShell

/-! ## Launching -/

/-- A program to start. -/
structure Launch where
  /-- The file to run. -/
  program : Path
  /-- The name that it was called by. -/
  name : Text
  args : List Text
  out : Sink
  err : Sink
  deriving DecidableEq

/-- Starts programs and waits for them. Three things are said by the type alone: every program ends; no
    program takes keys from the shell, since a world has none; and a fault means that a program was not
    started at all, so that the world stays as it was. -/
abbrev Launcher := World → Launch → Except Fault (World × ExitStatus)

/-! ## Routes -/

/-- What the name of a command leads to. -/
inductive Route where
  | builtin (b : Builtin)
  | program (path : Path)
  | nothing
  deriving DecidableEq, Repr

/-- What a name leads to: a builtin, a path if there is a slash in it, or what the search path
    holds. -/
def Settings.route (settings : Settings) (fs : FileSystem) (wd : Position) (name : Text) : Route :=
  match Builtin.ofName? name with
  | some b => .builtin b
  | none =>
    if '/' ∈ name then .program (Utf8.encode name)
    else match fs.findExecutable wd settings.searchPath name with
      | some path => .program path
      | none => .nothing

namespace World

/-! ## Dispatch -/

/-- Starts a program and waits for it. -/
def launchWith (launch : Launcher) (w : World) (l : Launch) : World × Except Failure Flow :=
  match launch w l with
  | .error cause => (w.log (.startFailed l.program cause), .error (.commandNotFound l.name))
  | .ok (w, status) =>
    (if status.isSuccess then w else w.log (.programFailed l.name status), .ok .goOn)

/-- Carries out a command whose streams have been opened. -/
def perform (launch : Launcher) (settings : Settings) (w : World) (name : Text) (args : List Text)
    (out err : Sink) : World × Except Failure Flow :=
  match settings.route w.files w.workDir name with
  | .builtin b => w.deliver (b.run settings w.files w.workDir args) out err
  | .program path => launchWith launch w ⟨path, name, args, out, err⟩
  | .nothing => (w, .error (.commandNotFound name))

/-- Opens the streams of a command: first the standard output, then the standard error. -/
def openStreams (w : World) (c : Command) : World × Except Failure (Sink × Sink) :=
  match w.openSink .out c.stdout c.append with
  | .error failure => (w, .error failure)
  | .ok (w, out) =>
    match w.openSink .err c.stderr c.append with
    | .error failure => (w, .error failure)
    | .ok (w, err) => (w, .ok (out, err))

/-- Carries out a command. -/
def execute (launch : Launcher) (settings : Settings) (w : World) (c : Command) :
    World × Except Failure Flow :=
  if c.isEmpty then (w, .ok .goOn)
  else
    match (w.log (.dispatched c)).openStreams c with
    | (w, .error failure) => (w.log (.targetRefused c.name failure), .error failure)
    | (w, .ok (out, err)) => w.perform launch settings c.name c.args out err

end World

end CommandShell
