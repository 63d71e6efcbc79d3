import CommandShell.Script.Numeral

/-!
# `CommandShell.Script.Floating` — numbers with a fraction

Numbers of 53 binary digits and their exponent, as texts write them and as formats print them. All
steps are exact, and rounding goes to the nearest number, a tie to the even one.

## Contents
- **Rounding.** `Floating.quotient`, a rounded quotient.
- **Numbers.** `Floating`, and `Floating.ofRatio`, the number that is nearest to a quotient.
- **Reading.** `Floating.Reading.prefix?` takes the number at the start of a text.
- **Printing.** `Floating.fixed`, `Floating.scientific` and `Floating.general` print a quotient, and
  `Floating.hexadecimal` the size of a number.
-/

namespace CommandShell

namespace Script

/-- A number: finite ones are a mantissa times a power of two. -/
inductive Floating where
  | finite (negative : Bool) (mantissa : Nat) (exponent : Int)
  | infinite (negative : Bool)
  | undefined
  deriving DecidableEq, Repr

namespace Floating

/-! ## Rounding -/

/-- The whole number nearest to a quotient, and the even one of two that are as near. -/
def quotient (n d : Nat) : Nat :=
  let q := n / d
  let twice := 2 * (n % d)
  if twice < d then q else if d < twice then q + 1 else q + q % 2

/-! ## Numbers -/

/-- The number of binary digits. -/
def width : Nat := 53

/-- The smallest exponent. -/
def smallestExponent : Int := -1074

/-- The largest exponent of a mantissa that has all its digits. -/
def largestExponent : Int := 971

/-- A quotient times a power of two, rounded. -/
def scaled (n d : Nat) (e : Int) : Nat :=
  if e < 0 then quotient (n <<< e.natAbs) d else quotient n (d <<< e.natAbs)

/-- The number that is nearest to a quotient. -/
def ofRatio (negative : Bool) (n d : Nat) : Floating :=
  if n = 0 then .finite negative 0 0
  else
    let guess : Int := (Nat.log2 n : Int) - Nat.log2 d - (width - 1)
    let small := if guess < 0 then n <<< guess.natAbs < d <<< (width - 1)
      else n < d <<< (guess.natAbs + width - 1)
    let e := max smallestExponent (if small then guess - 1 else guess)
    let m := scaled n d e
    let (m, e) := if m = 1 <<< width then (1 <<< (width - 1), e + 1) else (m, e)
    if largestExponent < e then .infinite negative else .finite negative m e

/-- The sign of a number. -/
def isNegative : Floating → Bool
  | .finite negative _ _ | .infinite negative => negative
  | .undefined => false

/-! ## Reading -/

/-- A quotient times a power of a base. -/
def shifted (base : Nat) (n d : Nat) (e : Int) : Nat × Nat :=
  if e < 0 then (n, d * base.pow e.natAbs) else (n * base.pow e.natAbs, d)

/-- The exponent at the start of a text, after its mark, and what follows it. -/
def exponentPrefix (marks : List Char) (s : Text) : Int × Text :=
  match s with
  | mark :: rest =>
    let (negative, unsigned) := match rest with
      | '-' :: more => (true, more)
      | '+' :: more => (false, more)
      | more => (false, more)
    let digits := unsigned.takeWhile Char.isDigit
    if mark ∈ marks ∧ digits ≠ [] then
      let n : Int := min (Numeral.ofDigits 10 digits) 5000
      (if negative then -n else n, unsigned.drop digits.length)
    else (0, s)
  | [] => (0, [])

/-- The digits of a number at the start of a text, with a point among them, as a quotient, and what
    follows them; nothing without a digit. -/
def digitsPrefix? (base : Nat) (isDigit : Char → Bool) (s : Text) : Option (Nat × Nat × Text) :=
  let whole := s.takeWhile isDigit
  let (part, after) := match s.drop whole.length with
    | '.' :: rest => (rest.takeWhile isDigit, rest.dropWhile isDigit)
    | rest => ([], rest)
  if whole = [] ∧ part = [] then none
  else some (Numeral.ofDigits base (whole ++ part), base.pow part.length, after)

/-- The number that a text begins with. -/
structure Reading where
  value : Floating
  /-- Whether the number is neither too large nor so small that it lost digits. -/
  inRange : Bool := true
  /-- What follows it. -/
  rest : Text

namespace Reading

/-- The number that is nearest to a quotient, in front of a text. -/
def ofRatio (negative : Bool) (n d : Nat) (rest : Text) : Reading :=
  let value := Floating.ofRatio negative n d
  let inRange := match value with
    | .finite _ m e => 1 <<< (width - 1) ≤ m || n <<< e.natAbs == m * d
    | _ => false
  { value := value, inRange := inRange, rest := rest }

/-- The number at the start of a text without a sign. -/
def unsigned? (negative : Bool) (s : Text) : Option Reading :=
  let word := fun (w : String) => w.toList.isPrefixOf (s.map Char.toLower)
  if word "infinity" then some { value := .infinite negative, rest := s.drop 8 }
  else if word "inf" then some { value := .infinite negative, rest := s.drop 3 }
  else if word "nan" then some { value := .undefined, rest := s.drop 3 }
  else
    let hexadecimal := if word "0x" then digitsPrefix? 16 Numeral.isHexDigit (s.drop 2) else none
    match hexadecimal with
    | some (n, d, rest) =>
      let (e, rest) := exponentPrefix ['p', 'P'] rest
      let (n, d) := shifted 2 n d e
      some (ofRatio negative n d rest)
    | none => do
      let (n, d, rest) ← digitsPrefix? 10 Char.isDigit s
      let (e, rest) := exponentPrefix ['e', 'E'] rest
      let (n, d) := shifted 10 n d e
      return ofRatio negative n d rest

/-- The number at the start of a text, after blanks and with an optional sign. -/
def prefix? (s : Text) : Option Reading :=
  match s.dropWhile Numeral.isBlank with
  | '-' :: rest => unsigned? true rest
  | '+' :: rest => unsigned? false rest
  | rest => unsigned? false rest

end Reading

/-! ## Printing -/

/-- The size of a finite number as a quotient. -/
def ratio (m : Nat) (e : Int) : Nat × Nat := shifted 2 m 1 e

/-- Digits with a point before the last ones. -/
def pointed (places : Nat) (keepsPoint : Bool) (digits : Text) : Text :=
  let all := List.replicate (places + 1 - digits.length) '0' ++ digits
  let whole := all.take (all.length - places)
  let part := all.drop (all.length - places)
  if part = [] ∧ keepsPoint = false then whole else whole ++ '.' :: part

/-- A quotient with so many places after the point. -/
def fixed (n d places : Nat) (keepsPoint : Bool) : Text :=
  pointed places keepsPoint (Text.decimal (quotient (n * Nat.pow 10 places) d))

/-- The largest power of ten that is not larger than a quotient, counting up or down from a first
    guess, in at most so many steps. -/
def powerFrom (n d : Nat) : Nat → Int → Int
  | 0, e => e
  | steps + 1, e =>
    let (n', d') := shifted 10 n d (-e)
    if n' < d' then powerFrom n d steps (e - 1)
    else if 10 * d' ≤ n' then powerFrom n d steps (e + 1)
    else e

/-- The digits of a quotient, so many of them, and the power of ten of the first. -/
def leading (n d count : Nat) : Text × Int :=
  if n = 0 then (List.replicate count '0', 0)
  else
    let guess : Int := (Text.decimal n).length - (Text.decimal d).length
    let e := powerFrom n d 3 guess
    let (n', d') := shifted 10 n d ((count : Int) - 1 - e)
    let digits := Text.decimal (quotient n' d')
    if count < digits.length then (digits.take count, e + 1) else (digits, e)

/-- Digits with a point after the first and a power of ten. -/
def powered (digits : Text) (e : Int) (keepsPoint : Bool) : Text :=
  let size := Text.decimal e.natAbs
  pointed (digits.length - 1) keepsPoint digits ++ 'e' :: (if e < 0 then '-' else '+') ::
    List.replicate (2 - size.length) '0' ++ size

/-- A quotient as a number between 1 and 10 times a power of ten. -/
def scientific (n d places : Nat) (keepsPoint : Bool) : Text :=
  let (digits, e) := leading n d (places + 1)
  powered digits e keepsPoint

/-- Digits without the zeros at their end. -/
def trimZeros (digits : Text) : Text := (digits.reverse.dropWhile (· == '0')).reverse

/-- A quotient in the shorter way of the two, with so many digits that count. -/
def general (n d precision : Nat) (keepsZeros : Bool) : Text :=
  let count := max precision 1
  let (digits, e) := leading n d count
  let kept := if keepsZeros then digits
    else match trimZeros digits with
      | [] => ['0']
      | ds => ds
  if e < -4 ∨ (count : Int) ≤ e then powered kept e keepsZeros
  else if 0 ≤ e then
    let whole := e.natAbs + 1
    let padded := kept ++ List.replicate (whole - kept.length) '0'
    pointed (padded.length - whole) keepsZeros padded
  else pointed (kept.length - 1 + e.natAbs) keepsZeros kept

/-- The size of a number in hexadecimal, between 1 and 2 times a power of two if the mantissa has all
    its digits; without a number of places, as many as are needed. -/
def hexadecimal (m : Nat) (e : Int) (places : Option Nat) (keepsPoint : Bool) : Text :=
  let most := (width - 1) / 4
  let count := min (places.getD most) most
  let digits := Nat.toDigits 16 (quotient m (1 <<< (4 * (most - count))))
  let all := List.replicate (count + 1 - digits.length) '0' ++ digits
  let part := match places with
    | none => trimZeros (all.drop 1)
    | some n => all.drop 1 ++ List.replicate (n - count) '0'
  let power := if m = 0 then 0 else e + (width - 1)
  pointed part.length keepsPoint (all.take 1 ++ part) ++ 'p' :: (if power < 0 then '-' else '+') ::
    Text.decimal power.natAbs

example : fixed 5 2 0 false = "2".toList ∧ scientific 12345 1 2 false = "1.23e+04".toList ∧
    general 1 10000 6 false = "0.0001".toList := by decide +kernel

end Floating

end Script

end CommandShell
