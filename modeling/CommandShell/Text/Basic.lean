/-!
# `CommandShell.Text.Basic` — text and bytes

The two kinds of string the shell handles. What a person types and reads is *text*, a list of
characters; what files, paths and environment variables hold is *bytes*, which need not be text.

## Contents
- **Types.** `Text` and `Bytes`, both plain lists, so that every list lemma applies to them.
- **Numerals.** `Text.decimal` and `Text.hexadecimal`, as messages print numbers.
- **Lists in text and bytes.** `Text.splitOn` and `Bytes.splitOn`, the parts between separators, as
  search paths (at colons) and paths (at slashes) are cut.
-/

namespace CommandShell

/-- What is typed and shown: a list of characters. -/
abbrev Text := List Char

/-- What files, paths and variables hold: a list of bytes, of any value. -/
abbrev Bytes := List UInt8

/-- A path in the file system, as written: the bytes between two NULs. -/
abbrev Path := Bytes

namespace Text

/-- The decimal digits of a number, without leading zeros. -/
def decimal (n : Nat) : Text := Nat.toDigits 10 n

/-- The hexadecimal digits of a number, in lower case and without leading zeros. -/
def hexadecimal (n : Nat) : Text := Nat.toDigits 16 n

/-- The parts of a text between the separators, empty ones included. -/
def splitOn (separator : Char) : Text → List Text
  | [] => [[]]
  | c :: cs =>
    if c = separator then [] :: splitOn separator cs
    else match splitOn separator cs with
      | [] => [[c]]
      | part :: parts => (c :: part) :: parts

end Text

namespace Bytes

/-- The parts between the separators, empty ones included. -/
def splitOn (separator : UInt8) : Bytes → List Bytes
  | [] => [[]]
  | b :: bs =>
    if b = separator then [] :: splitOn separator bs
    else match splitOn separator bs with
      | [] => [[b]]
      | part :: parts => (b :: part) :: parts

/-- There is always at least one part. -/
theorem splitOn_ne_nil (separator : UInt8) (bs : Bytes) : splitOn separator bs ≠ [] := by
  cases bs with
  | nil => simp [splitOn]
  | cons b bs =>
    simp only [splitOn]
    split
    · simp
    · split <;> simp

/-- The colon between the entries of a search path. -/
def colon : UInt8 := 0x3A

/-- The slash between the names of a path. -/
def slash : UInt8 := 0x2F

/-- The full stop, which names a directory itself. -/
def dot : UInt8 := 0x2E

end Bytes

end CommandShell
