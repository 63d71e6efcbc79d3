import CommandShell.Text.Utf8

/-!
# `CommandShell.Keys.Decoder` — keys from single bytes

Keys arrive as the bytes of UTF-8, one at a time. The decoder delivers a key as soon as its last
byte is there, and holds no more than the bytes of one unfinished sequence.

## Contents
- **Keys.** `Key` is a character, or a part that cannot become one; `Key.typed` is the character
  that the editor sees, U+FFFD for such a part.
- **Decoder.** `Decoder.push` takes a byte. A byte that cannot continue the sequence at hand first
  delivers that sequence as invalid, and then counts as the start of the next key, so that nothing
  after a broken sequence is lost.
- **Runs.** `Decoder.run` takes many bytes; `run_append` says that it does not matter how they are
  cut.
-/

namespace CommandShell

/-- A key press. -/
inductive Key where
  /-- A character. -/
  | char (c : Char)
  /-- Bytes that are no character, and that no further byte can make one. -/
  | invalid (part : Bytes)
  deriving DecidableEq, Repr

/-- The character that a key stands for in the editor. -/
def Key.typed : Key → Char
  | .char c => c
  | .invalid _ => Utf8.replacement

/-- What is held between two bytes: nothing, or the bytes of an unfinished sequence and what their
    lead still announces. -/
inductive Decoder where
  | idle
  | within (seen : Bytes) (lead : Utf8.Lead)
  deriving DecidableEq, Repr

namespace Decoder

/-- The bytes held back. -/
def pending : Decoder → Bytes
  | .idle => []
  | .within seen _ => seen

/-- Takes the first byte of a key. -/
def start (b : UInt8) : List Key × Decoder :=
  if b < 0x80 then ([.char (Char.ofNat b.toNat)], .idle)
  else match Utf8.lead? b with
    | none => ([.invalid [b]], .idle)
    | some lead => ([], .within [b] lead)

/-- Takes a byte; the keys that it completes, in order, and what is held back now. -/
def push : Decoder → UInt8 → List Key × Decoder
  | .idle, b => start b
  | .within seen lead, b =>
    if lead.admits b then
      let next := lead.extend b
      if next.missing = 0 then ([.char (Char.ofNat next.bits)], .idle)
      else ([], .within (seen ++ [b]) next)
    else
      let (keys, d) := start b
      (.invalid seen :: keys, d)

/-- Takes bytes in order; all the keys that they complete, and what is held back at the end. -/
def run : Decoder → Bytes → List Key × Decoder
  | d, [] => ([], d)
  | d, b :: bs =>
    let (keys, d') := d.push b
    let (more, d'') := run d' bs
    (keys ++ more, d'')

@[simp] theorem run_nil (d : Decoder) : d.run [] = ([], d) := rfl

@[simp] theorem run_cons (d : Decoder) (b : UInt8) (bs : Bytes) :
    d.run (b :: bs) = ((d.push b).1 ++ ((d.push b).2.run bs).1, ((d.push b).2.run bs).2) := rfl

/-- Bytes may be taken in two parts. -/
theorem run_append (d : Decoder) (as bs : Bytes) :
    d.run (as ++ bs) = ((d.run as).1 ++ ((d.run as).2.run bs).1, ((d.run as).2.run bs).2) := by
  induction as generalizing d with
  | nil => simp
  | cons a as ih => simp [ih]

end Decoder

end CommandShell
