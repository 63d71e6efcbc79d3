import CommandShell.Text.Basic

/-!
# `CommandShell.Text.Control` — control characters

The characters of Unicode's general category Cc. The editor never echoes one and never puts one
into the line, and an escape sequence ends at one.

## Contents
- **Class.** `Text.isControl`, the two blocks of control characters.
- **Keys.** The four control characters that the editor acts on.
-/

namespace CommandShell

namespace Text

/-- Control characters: the first 32 characters, and those from U+007F to U+009F. -/
def isControl (c : Char) : Bool :=
  c.toNat < 0x20 || (0x7F ≤ c.toNat && c.toNat ≤ 0x9F)

/-- Ctrl+C, which ends a read without a line. -/
def interruptKey : Char := Char.ofNat 0x03

/-- The bell, rung when Tab has nothing to add. -/
def bell : Char := Char.ofNat 0x07

/-- The cursor-left character that erases on the screen. -/
def backspace : Char := Char.ofNat 0x08

/-- ESC, which starts an escape sequence. -/
def escapeKey : Char := Char.ofNat 0x1B

/-- DEL, the character that the Backspace key sends. -/
def eraseKey : Char := Char.ofNat 0x7F

example : isControl interruptKey ∧ isControl escapeKey ∧ isControl eraseKey ∧ isControl '\t' := by
  decide

example : isControl (Char.ofNat 0x85) ∧ ¬ isControl (Char.ofNat 0xA0) := by decide

end Text

end CommandShell
