import CommandShell.Text.Basic

/-!
# `CommandShell.Program.Status` — how a program ends

A program ends by itself, with a number, or is ended by a signal.

## Contents
- **Signals.** `Signal.name?` and `Signal.ofName?`, the standard signals, and `Signal.describe`.
- **Status.** `ExitStatus`, its success, its description for the log, and the number under which a
  command script knows it.
-/

namespace CommandShell

/-! ## Signals -/

namespace Signal

/-- The standard signals. -/
def table : List (Nat × Text) :=
  [(1, "HUP".toList), (2, "INT".toList), (3, "QUIT".toList), (4, "ILL".toList),
   (5, "TRAP".toList), (6, "ABRT".toList), (7, "BUS".toList), (8, "FPE".toList),
   (9, "KILL".toList), (10, "USR1".toList), (11, "SEGV".toList), (12, "USR2".toList),
   (13, "PIPE".toList), (14, "ALRM".toList), (15, "TERM".toList), (16, "STKFLT".toList),
   (17, "CHLD".toList), (18, "CONT".toList), (19, "STOP".toList), (20, "TSTP".toList),
   (21, "TTIN".toList), (22, "TTOU".toList), (23, "URG".toList), (24, "XCPU".toList),
   (25, "XFSZ".toList), (26, "VTALRM".toList), (27, "PROF".toList), (28, "WINCH".toList),
   (29, "IO".toList), (30, "PWR".toList), (31, "SYS".toList)]

/-- The name of a signal. -/
def name? (n : Nat) : Option Text := table.lookup n

/-- The descriptions of the standard signals, from the number 1 on. -/
def descriptions : List String :=
  ["Hangup", "Interrupt", "Quit", "Illegal instruction", "Trace/breakpoint trap", "Aborted",
   "Bus error", "Floating point exception", "Killed", "User defined signal 1",
   "Segmentation fault", "User defined signal 2", "Broken pipe", "Alarm clock", "Terminated",
   "Stack fault", "Child exited", "Continued", "Stopped (signal)", "Stopped",
   "Stopped (tty input)", "Stopped (tty output)", "Urgent I/O condition",
   "CPU time limit exceeded", "File size limit exceeded", "Virtual timer expired",
   "Profiling timer expired", "Window changed", "I/O possible", "Power failure",
   "Bad system call"]

/-- The number of the first signal that programs may use as they like. -/
def firstFree : Nat := 34

/-- The description of a signal. -/
def describe (n : Nat) : Text :=
  match descriptions[n - 1]? with
  | some s => s.toList
  | none =>
    if n < firstFree then "Unknown signal ".toList ++ Text.decimal n
    else "Real-time signal ".toList ++ Text.decimal (n - firstFree)

/-- The signal of a name. -/
def ofName? (s : Text) : Option Nat := (table.find? fun e => e.2 == s).map Prod.fst

/-- The signal of an interruption from the keyboard. -/
def interrupt : Nat := 2

/-- The signal of a write that nobody can read. -/
def brokenPipe : Nat := 13

/-- The signal that asks a program to end. -/
def terminate : Nat := 15

/-- The signals that leave a program alone unless it asked for them. -/
def harmless : List Nat := [0, 17, 18, 19, 20, 21, 22, 23, 28]

end Signal

/-! ## Status -/

/-- How a program ended. -/
inductive ExitStatus where
  /-- By itself, with this number. -/
  | code (n : Nat)
  /-- By this signal. -/
  | signal (n : Nat)
  deriving DecidableEq, Repr

namespace ExitStatus

/-- Ending with the number 0 is success. -/
def isSuccess (s : ExitStatus) : Bool := s == .code 0

/-- The wording of a status. -/
def message : ExitStatus → Text
  | .code n => "exit status: ".toList ++ Text.decimal n
  | .signal n =>
    "signal: ".toList ++ Text.decimal n ++
      match Signal.name? n with
      | some s => " (SIG".toList ++ s ++ ")".toList
      | none => []

/-- The number of a status in a command script: 128 and the signal for an ended program. -/
def number : ExitStatus → Nat
  | .code n => n
  | .signal n => 128 + n

end ExitStatus

end CommandShell
