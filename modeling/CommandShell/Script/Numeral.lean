import CommandShell.Script.Syntax

/-!
# `CommandShell.Script.Numeral` — numbers in scripts

How a text writes a number: in decimal, in octal after a zero, in hexadecimal after `0x`. Numbers
have 64 bits.

## Contents
- **Digits.** `Numeral.ofDigits`, and the classes of digits.
- **Range.** `Numeral.wrap` brings a number into the range of 64 bits.
- **Numbers.** `Numeral.naturalPrefix` and `Numeral.integerPrefix` take the number at the start of a
  text; `Numeral.integer?` is a text that is a number as a whole.
-/

namespace CommandShell

namespace Script

namespace Numeral

/-! ## Digits -/

/-- A digit from 0 to 7. -/
def isOctal (c : Char) : Bool := '0' ≤ c && c ≤ '7'

/-- A digit of a hexadecimal number. -/
def isHexDigit (c : Char) : Bool := c.isDigit || ('a' ≤ c && c ≤ 'f') || ('A' ≤ c && c ≤ 'F')

/-- The value of a digit. -/
def digitValue (c : Char) : Nat :=
  if c.isDigit then c.toNat - '0'.toNat else c.toLower.toNat - 'a'.toNat + 10

/-- The number that some digits write in a base. -/
def ofDigits (base : Nat) (digits : Text) : Nat :=
  digits.foldl (fun n c => n * base + digitValue c) 0

/-! ## Range -/

/-- How many numbers 64 bits can tell apart. -/
def modulus : Nat := 18446744073709551616

/-- The number of 64 bits that is left of a number when all higher bits are dropped. -/
def wrap (n : Int) : Int := n.bmod modulus

/-- The largest number. -/
def largest : Int := 9223372036854775807

/-- The smallest number. -/
def smallest : Int := -9223372036854775808

/-- Whether a number has 64 bits. -/
def isInRange (n : Int) : Bool := decide (smallest ≤ n ∧ n ≤ largest)

/-- The number in range that is nearest. -/
def clamp (n : Int) : Int := max smallest (min largest n)

/-! ## Numbers -/

/-- A blank in front of a number. -/
def isBlank (c : Char) : Bool := c ∈ [' ', '\t', '\n', '\x0b', '\x0c', '\r']

/-- The value of the number at the start of a text: hexadecimal after `0x`, octal after another
    zero, else decimal; and what follows it. -/
def naturalPrefix (s : Text) : Nat × Text :=
  let hexadecimal := fun (x : Char) (rest : Text) =>
    let digits := rest.takeWhile isHexDigit
    if digits = [] then (0, x :: rest) else (ofDigits 16 digits, rest.drop digits.length)
  match s with
  | '0' :: 'x' :: rest => hexadecimal 'x' rest
  | '0' :: 'X' :: rest => hexadecimal 'X' rest
  | '0' :: rest =>
    let digits := rest.takeWhile isOctal
    (ofDigits 8 digits, rest.drop digits.length)
  | _ =>
    let digits := s.takeWhile Char.isDigit
    (ofDigits 10 digits, s.drop digits.length)

/-- The number at the start of a text, after blanks and with an optional sign, and what follows it;
    without any digit, nothing is taken. -/
def integerPrefix (s : Text) : Int × Text :=
  let (negative, unsigned) := match s.dropWhile isBlank with
    | '-' :: rest => (true, rest)
    | '+' :: rest => (false, rest)
    | rest => (false, rest)
  if unsigned.head?.any Char.isDigit then
    let (n, rest) := naturalPrefix unsigned
    (if negative then -(n : Int) else n, rest)
  else (0, s)

/-- The number that a text writes, blanks around it aside. -/
def integer? (s : Text) : Option Int :=
  let (n, rest) := integerPrefix s
  if rest.length < s.length ∧ rest.all isBlank then some n else none

/-- The number that a text writes in decimal, blanks around it aside. -/
def decimal? (s : Text) : Option Int :=
  let (negative, unsigned) := match s.dropWhile isBlank with
    | '-' :: rest => (true, rest)
    | '+' :: rest => (false, rest)
    | rest => (false, rest)
  let digits := unsigned.takeWhile Char.isDigit
  let n : Int := ofDigits 10 digits
  if digits ≠ [] ∧ (unsigned.drop digits.length).all isBlank then
    some (if negative then -n else n)
  else none

/-- A number in decimal, with a minus sign if it is negative. -/
def write (n : Int) : Text :=
  if n < 0 then '-' :: Text.decimal n.natAbs else Text.decimal n.natAbs

example : integer? " -0x1F ".toList = some (-31) ∧ integer? "12z".toList = none ∧
    decimal? "012".toList = some 12 := by decide

end Numeral

end Script

end CommandShell
