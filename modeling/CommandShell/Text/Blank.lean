import CommandShell.Text.Basic

/-!
# `CommandShell.Text.Blank` — white space at the ends of a line

The 25 characters with Unicode's White_Space property, and the removal of those that stand at
either end of a text. A line is trimmed before it is split into words, although only the plain
space separates words.

## Contents
- **Class.** `Text.isBlank`.
- **Trimming.** `Text.trim` drops blanks from both ends and nothing else.
-/

namespace CommandShell

namespace Text

/-- White space: tab to carriage return, space, next line, no-break space, and the spaces and
    separators of the other scripts. -/
def isBlank (c : Char) : Bool :=
  let n := c.toNat
  (0x09 ≤ n && n ≤ 0x0D) || n == 0x20 || n == 0x85 || n == 0xA0 || n == 0x1680 ||
    (0x2000 ≤ n && n ≤ 0x200A) || n == 0x2028 || n == 0x2029 || n == 0x202F || n == 0x205F ||
    n == 0x3000

/-- The text without the blanks at its start. -/
def trimStart (s : Text) : Text := s.dropWhile isBlank

/-- The text without the blanks at its end. -/
def trimEnd (s : Text) : Text := (s.reverse.dropWhile isBlank).reverse

/-- The text without the blanks at either end. -/
def trim (s : Text) : Text := trimEnd (trimStart s)

@[simp] theorem trim_nil : trim [] = [] := rfl

end Text

end CommandShell
