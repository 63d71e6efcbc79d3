import CommandShell.Script.Expansion
import CommandShell.Script.Programs

/-!
# `CommandShell.Script.Redirection` — redirections in force

The redirections of a command are opened in order, and taken back after it.

## Contents
- **Targets.** `Interpreter.targets` expands the targets of redirections.
- **Opening.** `Interpreter.redirect` opens redirections, up to one that cannot be opened.
- **Taking back.** `Interpreter.hold` remembers what the descriptors of redirections stand for, and
  `Interpreter.release` takes the redirections back.
-/

namespace CommandShell

namespace Script

/-! ## Targets -/

/-- The target of a redirection that is about to be opened. -/
inductive Target where
  | text (s : Text)
  /-- What stands in the script itself. -/
  | document (w : Word)

namespace Interpreter

/-- Whether a target is a descriptor, or closes one. -/
def isDescriptor (target : Text) : Bool :=
  match target with
  | [c] => c.isDigit || c == '-'
  | _ => false

/-- Expands the targets of redirections. What stands in the script itself is left for later. -/
def targets (outputs : Outputs) (i : Interpreter) :
    List (Redirect Word) → Interpreter × List (Redirect Target)
  | [] => (i, [])
  | r :: rest =>
    let (j, target) := if r.kind = .here then (i, .document r.target)
      else
        let (j, text) := i.text outputs .atStart r.target
        (if r.kind = .duplicate ∧ !isDescriptor text ∧ j.ending.isNone then
          j.fail "Syntax error: Bad fd number".toList else j, .text text)
    if j.ending.isSome then (j, [])
    else
      let (k, more) := targets outputs j rest
      (k, ⟨r.descriptor, r.kind, target⟩ :: more)

/-! ## Opening -/

/-- Opens a file for writing. A new file does not get the permissions that are masked. -/
def openToWrite (i : Interpreter) (path : Path) (append : Bool) :
    Except Fault (Interpreter × Handle) := do
  let isThere := (i.world.files.stat i.world.workDir path).toOption.isSome
  let (files, h) ← i.world.files.openToWrite i.world.workDir path append
  let mode : Mode := 0o666 &&& (0o777 ^^^ i.mask)
  let files := if isThere then files else files.put h.location (.file [] mode)
  return ({ i with world := { i.world with files := files } }, h)

/-- Whether writing over what a path leads to is ruled out, as it is for a regular file and for a
    link that leads nowhere. -/
def isKept (i : Interpreter) (path : Path) : Bool :=
  i.has 'C' &&
    match i.world.files.stat i.world.workDir path with
    | .ok n => n.isRegular
    | .error _ => (i.world.files.entry i.world.workDir path).toOption.isSome

/-- Whether a redirection may make a new file. -/
def mayCreate (i : Interpreter) (kind : RedirectKind) (path : Path) : Bool :=
  match kind with
  | .read => false
  | .write =>
    let opensOther := (i.world.files.stat i.world.workDir path).toOption.any fun n => !n.isRegular
    !(i.has 'C' && opensOther)
  | _ => true

/-- Opens the channel of a redirection to a file. -/
def openFile (i : Interpreter) (kind : RedirectKind) (path : Path) :
    Except Fault (Interpreter × Channel) :=
  match kind with
  | .read => do return (i, .input (← i.world.files.openToRead i.world.workDir path))
  | .update => do
    let (j, h) ← i.openToWrite path true
    return (j, .update { h with append := false })
  | .write =>
    if i.isKept path then .error .alreadyExists
    else do
      let (j, h) ← i.openToWrite path false
      return (j, .output (.file h))
  | kind => do
    let (j, h) ← i.openToWrite path (kind == .append)
    return (j, .output (.file h))

/-- The script with a redirection to a file in force, or a complaint; also whether it has opened. -/
def redirectFile (i : Interpreter) (descriptor : Nat) (kind : RedirectKind) (path : Text) :
    Interpreter × Bool :=
  match i.openFile kind (toBytes path) with
  | .ok (j, channel) => ({ j with streams := j.streams.add descriptor channel }, true)
  | .error fault =>
    let (verb, missing) := if i.mayCreate kind (toBytes path) then
        ("create", "Directory nonexistent")
      else ("open", "No such file")
    (i.complain ("cannot ".toList ++ verb.toList ++ ' ' :: path ++ ": ".toList ++
      describeFault missing.toList fault), false)

/-- The script with a descriptor that stands for what another one stands for, or for nothing. -/
def redirectCopy (i : Interpreter) (descriptor : Nat) (target : Text) : Interpreter × Bool :=
  let closed := { i with streams := i.streams.close descriptor }
  match natural? target with
  | none => (closed, true)
  | some n =>
    if n = descriptor then (i, true)
    else match i.streams.index? n with
      | some channel => ({ i with streams := i.streams.bind descriptor channel }, true)
      | none => (closed.complain (target ++ ": Bad file descriptor".toList), false)

/-- The script with a descriptor that reads from what stands in the script itself. A failure in
    there is one of the redirection. -/
def redirectDocument (outputs : Outputs) (i : Interpreter) (descriptor : Nat) (w : Word) :
    Interpreter × Bool :=
  let (j, text) := i.text outputs .nowhere w
  match j.ending with
  | some (.failure _) => ({ j with ending := none }, false)
  | some _ => (j, false)
  | none => ({ j with streams := j.streams.add descriptor (.supply text) }, true)

/-- The script with one redirection in force, or a complaint; also whether it is in force. -/
def redirectOne (outputs : Outputs) (i : Interpreter) (r : Redirect Target) : Interpreter × Bool :=
  match r.target with
  | .document w => i.redirectDocument outputs r.descriptor w
  | .text target =>
    if r.kind = .duplicate then i.redirectCopy r.descriptor target
    else i.redirectFile r.descriptor r.kind target

/-- The script with redirections in force, up to one that cannot be opened; also whether all are. -/
def redirect (outputs : Outputs) (i : Interpreter) : List (Redirect Target) → Interpreter × Bool
  | [] => (i, true)
  | r :: rest =>
    let (j, isOpen) := i.redirectOne outputs r
    if isOpen then redirect outputs j rest else (j, false)

/-! ## Taking back -/

/-- What the descriptors of some redirections stand for. -/
def saved (i : Interpreter) (rs : List (Redirect Target)) : List (Nat × Option Nat) :=
  (rs.map Redirect.descriptor).eraseDups.map fun d => (d, i.streams.index? d)

/-- The script in which the channels of the descriptors of redirections stay open. -/
def hold (i : Interpreter) (rs : List (Redirect Target)) : Interpreter :=
  { i with streams := { i.streams with
      held := (i.saved rs).filterMap Prod.snd ++ i.streams.held } }

/-- The script in which the redirections of an earlier state are no longer in force. -/
def release (i before : Interpreter) (rs : List (Redirect Target)) : Interpreter :=
  let back := (before.saved rs).foldl (fun s d => s.put d.1 d.2) i.streams
  { i with streams := { back with held := before.streams.held }.trim }

/-- The script in which redirections stay in force. -/
def settleStreams (i before : Interpreter) : Interpreter :=
  { i with streams := { i.streams with held := before.streams.held }.trim }

end Interpreter

end Script

end CommandShell
