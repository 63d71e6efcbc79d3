import CommandShell.Fault

/-!
# `CommandShell.Output` — an output that may refuse

A destination of text that is written piece by piece and flushed. It may accept only so many bytes,
and only so many flushes, and refuses from then on: an output that accepts again after it has refused
something is another `Output` then.

## Contents
- **State.** `Output` separates what is flushed from what is only written, and counts what it still
  accepts; `Output.text` is all that it accepted.
- **Operations.** `Output.write` accepts a text up to the limit, and fails if something is left
  over; `Output.flush` moves what was written to what is flushed.
- **Laws.** `text_write` and `text_flush` say what an operation does to the accepted text.
-/

namespace CommandShell

/-- An output and all that it has accepted. -/
structure Output where
  /-- What was written before the last flush. -/
  flushed : Bytes := []
  /-- What was written since. -/
  unflushed : Bytes := []
  /-- How many more bytes are accepted; all, if there is no limit. -/
  writeRoom : Option Nat := none
  /-- How many more flushes are accepted; all, if there is no limit. -/
  flushRoom : Option Nat := none
  deriving DecidableEq, Repr

namespace Output

/-- The fault of a write that does not fit. -/
def writeRefused : Fault := .other "write refused".toList

/-- The fault of a flush that is not accepted. -/
def flushRefused : Fault := .other "flush refused".toList

/-- All that was accepted, in order. -/
def text (o : Output) : Bytes := o.flushed ++ o.unflushed

/-- Writes a text: all of it if there is room, else as much as there is room for, with a fault. -/
def write (o : Output) (bs : Bytes) : Output × Option Fault :=
  match o.writeRoom with
  | none => ({ o with unflushed := o.unflushed ++ bs }, none)
  | some room =>
    if bs.length ≤ room then
      ({ o with unflushed := o.unflushed ++ bs, writeRoom := some (room - bs.length) }, none)
    else
      ({ o with unflushed := o.unflushed ++ bs.take room, writeRoom := some 0 }, some writeRefused)

/-- Flushes what was written; a refused flush leaves it where it is. -/
def flush (o : Output) : Output × Option Fault :=
  match o.flushRoom with
  | none => ({ o with flushed := o.flushed ++ o.unflushed, unflushed := [] }, none)
  | some 0 => (o, some flushRefused)
  | some (n + 1) =>
    ({ o with flushed := o.flushed ++ o.unflushed, unflushed := [], flushRoom := some n }, none)

/-- A write adds to the accepted text what there is room for. -/
theorem text_write (o : Output) (bs : Bytes) :
    (o.write bs).1.text = o.text ++ bs.take (o.writeRoom.getD bs.length) := by
  unfold write text
  split
  · next h => simp [h]
  · next room h =>
    split
    · next hle => simp [h, List.take_of_length_le hle]
    · simp [h]

/-- A flush changes nothing about the accepted text. -/
@[simp] theorem text_flush (o : Output) : o.flush.1.text = o.text := by
  unfold flush text
  split <;> simp

/-- Nothing can always be written. -/
@[simp] theorem write_nil (o : Output) : (o.write []).2 = none := by
  unfold write
  split <;> simp

end Output

end CommandShell
