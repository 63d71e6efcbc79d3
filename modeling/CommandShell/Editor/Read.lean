import CommandShell.Editor.State
import CommandShell.Keys.Decoder
import CommandShell.Output

/-!
# `CommandShell.Editor.Read` — reading a line

Keys come in byte by byte and every reaction is shown at once: what a key echoes is written and
flushed before the next byte is taken. A read ends with a line, with Ctrl+C, or with a failure of
its input or its output.

## Contents
- **Input.** `InputEvent`: a byte, or a fault of the attempt to read one; `InputEvent.bytes` are the bytes
  of an input. An interrupted attempt is simply repeated.
- **Progress.** `Progress` is a read between two bytes; `Progress.press` handles one key and
  `Progress.pressAll` the keys that one byte completes.
- **Reads.** `Editor.readFrom` takes bytes until the read ends; the events that it did not take are
  `Read.rest`. What the decoder holds back then is dropped with the read.
- **Several reads.** `Editor.reads` reads again and again from one input onto one output.
-/

namespace CommandShell

/-- What an attempt to read a byte brings. -/
inductive InputEvent where
  | byte (b : UInt8)
  | fault (f : Fault)
  deriving DecidableEq, Repr

namespace InputEvent

/-- The events of an input that brings just these bytes. -/
def ofBytes (bs : Bytes) : List InputEvent := bs.map .byte

/-- The byte that an event brings. -/
def byte? : InputEvent → Option UInt8
  | .byte b => some b
  | .fault _ => none

/-- The bytes that an input brings, in order. -/
def bytes (input : List InputEvent) : Bytes := input.filterMap byte?

@[simp] theorem bytes_byte (b : UInt8) (input : List InputEvent) :
    bytes (.byte b :: input) = b :: bytes input := rfl

@[simp] theorem bytes_fault (f : Fault) (input : List InputEvent) :
    bytes (.fault f :: input) = bytes input := rfl

/-- Keys that come without faults bring just their bytes. -/
@[simp] theorem bytes_ofBytes (bs : Bytes) : bytes (ofBytes bs) = bs := by
  induction bs with
  | nil => rfl
  | cons b bs ih => exact congrArg (b :: ·) ih

end InputEvent

/-- What was flushed at once: how many bytes had been taken by then, and the text. -/
structure Echo where
  consumed : Nat
  text : Bytes
  deriving DecidableEq, Repr

/-- What a read passes over in silence, apart from the log. -/
inductive Notice where
  /-- A control character without a function. -/
  | ignoredKey (c : Char)
  /-- Bytes that are no character. -/
  | discarded (part : Bytes)
  deriving DecidableEq, Repr

namespace Editor

/-! ## A read in progress -/

/-- A read between two bytes. -/
structure Progress where
  state : State := {}
  decoder : Decoder := .idle
  output : Output := {}
  /-- The bytes taken so far, those of earlier reads of the same input included. -/
  consumed : Nat := 0
  echoes : List Echo := []
  notices : List Notice := []
  deriving DecidableEq, Repr

/-- What the log learns of a key. -/
def notice (s : State) : Key → List Notice
  | .char c => if ignores s c then [.ignoredKey c] else []
  | .invalid part => [.discarded part]

/-- Shows a reaction: writes its echo and flushes. -/
def Progress.show (p : Progress) (echo : Bytes) : Progress × Option Fault :=
  match p.output.write echo with
  | (written, some fault) => ({ p with output := written }, some fault)
  | (written, none) =>
    match written.flush with
    | (kept, some fault) => ({ p with output := kept }, some fault)
    | (flushed, none) =>
      ({ p with output := flushed, echoes := p.echoes ++ [⟨p.consumed, written.unflushed⟩] }, none)

/-- Handles a key; the end of the read, if this is it. -/
def Progress.press (e : Editor) (p : Progress) (key : Key) :
    Progress × Option (Except Failure ReadOutcome) :=
  let reaction := e.press p.state key.typed
  let noted := { p with
    state := reaction.state, notices := p.notices ++ notice p.state key }
  match noted.show (Utf8.encode reaction.echo) with
  | (shown, some fault) => (shown, some (.error (.io fault)))
  | (shown, none) => (shown, reaction.ending.map .ok)

/-- Handles keys in order until one of them ends the read. -/
def Progress.pressAll (e : Editor) (p : Progress) :
    List Key → Progress × Option (Except Failure ReadOutcome)
  | [] => (p, none)
  | key :: keys =>
    match p.press e key with
    | (q, some ending) => (q, some ending)
    | (q, none) => Progress.pressAll e q keys

/-- Takes a byte. -/
def Progress.take (e : Editor) (p : Progress) (b : UInt8) :
    Progress × Option (Except Failure ReadOutcome) :=
  let (keys, decoder) := p.decoder.push b
  Progress.pressAll e { p with decoder := decoder, consumed := p.consumed + 1 } keys

/-! ## Reads -/

/-- A finished read. -/
structure Read where
  ending : Except Failure ReadOutcome
  output : Output
  /-- The bytes taken, those of earlier reads of the same input included. -/
  consumed : Nat
  echoes : List Echo
  notices : List Notice
  /-- What of the input was not taken. -/
  rest : List InputEvent

/-- Ends a read. -/
def Progress.finish (p : Progress) (ending : Except Failure ReadOutcome) (rest : List InputEvent) :
    Read :=
  ⟨ending, p.output, p.consumed, p.echoes, p.notices, rest⟩

/-- Reads on until the read ends. -/
def Progress.readFrom (e : Editor) (p : Progress) : List InputEvent → Read
  | [] => p.finish (.error .inputClosed) []
  | .fault f :: rest =>
    if f.isInterruption then Progress.readFrom e p rest
    else p.finish (.error (.input f)) rest
  | .byte b :: rest =>
    match p.take e b with
    | (q, some ending) => q.finish ending rest
    | (q, none) => Progress.readFrom e q rest

/-- Reads a line, onto an output and after `consumed` bytes of the input. -/
def readFrom (e : Editor) (output : Output) (consumed : Nat) (input : List InputEvent) : Read :=
  Progress.readFrom e { output := output, consumed := consumed } input

/-- Whether another read can follow: neither is the input at its end nor has the output failed. -/
def Read.goesOn (r : Read) : Bool :=
  match r.ending with
  | .error .inputClosed | .error (.io _) => false
  | _ => true

/-- Reads again and again, at most `n` times, until the input is at its end or the output fails. -/
def reads (e : Editor) : Nat → Output → Nat → List InputEvent → List Read
  | 0, _, _, _ => []
  | n + 1, output, consumed, input =>
    let r := e.readFrom output consumed input
    r :: if r.goesOn then reads e n r.output r.consumed r.rest else []

end Editor

end CommandShell
