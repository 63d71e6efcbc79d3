import CommandShell.Fault.Description
import CommandShell.Text.Utf8

/-!
# `CommandShell.Fault` — what can go wrong

Two layers. A `Fault` is the refusal of one operation of the system: opening a file, writing,
reading a key. A `Failure` is what a command or a read ends in because of one, together with the
part of the shell that met it.

## Contents
- **Faults.** Numbered ones of the operating system, named kinds, and one-off texts;
  `Fault.isInterruption` tells those after which the operation can simply be made again, and
  `Fault.message` is the wording of each.
- **Failures.** `Failure.message`, `Failure.cause?`, and `Failure.isFatal`, which says after which
  of them the shell cannot go on.
-/

namespace CommandShell

/-! ## Faults -/

/-- The kinds of fault that carry no number of the operating system. -/
inductive FaultKind where
  | notFound
  | permissionDenied
  | brokenPipe
  | interrupted
  | wouldBlock
  | unexpectedEnd
  | timedOut
  deriving DecidableEq, Repr

/-- The refusal of one operation. -/
inductive Fault where
  /-- Refused by the operating system, with its error number. -/
  | system (number : Nat)
  /-- A kind of fault without a number. -/
  | kind (k : FaultKind)
  /-- A path with a NUL inside, which the system cannot be asked about. -/
  | nulInPath
  /-- A fault that is known by its text only. -/
  | other (text : Text)
  deriving DecidableEq, Repr

/-- A kind alone is a fault. -/
instance : Coe FaultKind Fault := ⟨.kind⟩

/-- The wording of a kind. -/
def FaultKind.message : FaultKind → Text
  | .notFound => "entity not found".toList
  | .permissionDenied => "permission denied".toList
  | .brokenPipe => "broken pipe".toList
  | .interrupted => "operation interrupted".toList
  | .wouldBlock => "operation would block".toList
  | .unexpectedEnd => "unexpected end of file".toList
  | .timedOut => "timed out".toList

namespace Fault

/-- No file of that name (2). -/
def noEntry : Fault := .system 2

/-- A call that a signal broke off (4). -/
def callInterrupted : Fault := .system 4

/-- Arguments that take more room than there is (7). -/
def argumentTooLong : Fault := .system 7

/-- A start refused because a file is neither a program nor a script (8). -/
def notAProgram : Fault := .system 8

/-- A descriptor that stands for no open file (9). -/
def badDescriptor : Fault := .system 9

/-- No room for another process (11). -/
def unavailable : Fault := .system 11

/-- An access that the file's mode does not grant (13). -/
def accessDenied : Fault := .system 13

/-- A name that is taken already (17). -/
def alreadyExists : Fault := .system 17

/-- Something other than a directory where a directory is needed (20). -/
def notADirectory : Fault := .system 20

/-- A directory where a file is needed (21). -/
def isADirectory : Fault := .system 21

/-- A start refused because the file is open for writing (26). -/
def textFileBusy : Fault := .system 26

/-- A device with no room left (28). -/
def noSpace : Fault := .system 28

/-- A path or a name that is too long (36). -/
def nameTooLong : Fault := .system 36

/-- More symbolic links on a path than are followed (40). -/
def tooManyLinks : Fault := .system 40

/-- No terminal to read from (6). -/
def noTerminal : Fault := .system 6

/-- An argument with a NUL inside, which no program can be given. -/
def nulInArgument : Fault := .other "nul byte found in provided data".toList

/-- Whether the operation was only broken off, so that it can be made again. -/
def isInterruption (f : Fault) : Bool := f == callInterrupted || f == .kind .interrupted

/-- The wording of a fault. -/
def message : Fault → Text
  | .system n => describe n ++ " (os error ".toList ++ Text.decimal n ++ ")".toList
  | .kind k => k.message
  | .nulInPath => "file name contained an unexpected NUL byte".toList
  | .other text => text

end Fault

/-! ## Failures -/

/-- What a command or a read ended in. -/
inductive Failure where
  /-- Neither a builtin nor a program that could be started. -/
  | commandNotFound (name : Text)
  /-- The target of a redirection could not be opened, and the command did not run. -/
  | redirect (target : Path) (cause : Fault)
  /-- The terminal could not be switched to single keys. -/
  | terminal (cause : Fault)
  /-- The keys came to an end. -/
  | inputClosed
  /-- A key could not be read. -/
  | input (cause : Fault)
  /-- Output could not be written. -/
  | io (cause : Fault)
  deriving DecidableEq, Repr

namespace Failure

/-- The wording of a failure, as printed for the person at the keyboard. -/
def message : Failure → Text
  | .commandNotFound name => name ++ ": command not found".toList
  | .redirect target cause => Utf8.lossy target ++ ": ".toList ++ cause.message
  | .terminal cause => "terminal error: ".toList ++ cause.message
  | .inputClosed => "input stream closed".toList
  | .input cause => "reading input: ".toList ++ cause.message
  | .io cause => cause.message

/-- The fault behind a failure, where the failure adds something to it. -/
def cause? : Failure → Option Fault
  | .redirect _ cause | .terminal cause | .input cause => some cause
  | .commandNotFound _ | .inputClosed | .io _ => none

/-- The failures after which no further key can be read. -/
def isFatal : Failure → Bool
  | .terminal _ | .inputClosed | .input _ => true
  | .commandNotFound _ | .redirect _ _ | .io _ => false

end Failure

end CommandShell
