import CommandShell.Text.Printable
import CommandShell.Text.Utf8

/-!
# `CommandShell.Text.Quoted` — quoted display

How texts, paths and characters look in the log: between quotes, with everything that would be
invisible or ambiguous written as an escape.

## Contents
- **Escapes.** `Quoted.escape`: short escapes for NUL, tab, carriage return and newline, a
  backslash before a backslash and before the quotes in question, and the number of a character
  that is not printable or attaches to the one before it.
- **Values.** `Quoted.text`, `Quoted.path` and `Quoted.char`. A path shows bytes that are no text as
  two hexadecimal digits each.
- **Lists.** `Quoted.bracketed` and `Quoted.byteList`.
-/

namespace CommandShell

namespace Quoted

/-! ## Escapes -/

/-- A character inside quotes; `quotes` are the quotes that need a backslash. -/
def escape (quotes : List Char) (c : Char) : Text :=
  if c = Char.ofNat 0 then ['\\', '0']
  else if c = '\t' then ['\\', 't']
  else if c = '\r' then ['\\', 'r']
  else if c = '\n' then ['\\', 'n']
  else if c = '\\' ∨ c ∈ quotes then ['\\', c]
  else if Text.extendsGrapheme c || !Text.isPrintable c then
    ['\\', 'u', '{'] ++ Text.hexadecimal c.toNat ++ ['}']
  else [c]

/-- An upper-case hexadecimal digit. -/
def upperHexDigit (n : Nat) : Char := (Nat.digitChar n).toUpper

/-- A byte that is no text. -/
def escapeByte (b : UInt8) : Text :=
  ['\\', 'x', upperHexDigit (b.toNat / 16), upperHexDigit (b.toNat % 16)]

/-! ## Values -/

/-- A text between double quotes. -/
def text (s : Text) : Text := ['"'] ++ s.flatMap (escape ['"']) ++ ['"']

/-- A character between single quotes. -/
def char (c : Char) : Text := ['\''] ++ escape ['\''] c ++ ['\'']

/-- A piece of a path inside quotes. -/
def chunk : Utf8.Chunk → Text
  | .char c => escape ['"'] c
  | .invalid part => part.flatMap escapeByte

/-- A path between double quotes. -/
def path (p : Path) : Text := ['"'] ++ (Utf8.chunks p).flatMap chunk ++ ['"']

/-! ## Lists -/

/-- Items between brackets, separated by commas. -/
def bracketed (items : List Text) : Text := ['['] ++ List.intercalate [',', ' '] items ++ [']']

/-- Bytes as decimal numbers between brackets. -/
def byteList (bs : Bytes) : Text := bracketed (bs.map fun b => Text.decimal b.toNat)

end Quoted

end CommandShell
