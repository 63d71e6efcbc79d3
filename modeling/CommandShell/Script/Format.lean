import CommandShell.Script.Floating

/-!
# `CommandShell.Script.Format` — formatted output

The format language of the script command `printf`: text with escapes, and conversions that take
arguments. A format is used again as long as it takes arguments and there are some left.

## Contents
- **Results.** `Formatted`, a text with complaints about arguments.
- **Escapes.** `Format.escape` is the character after a backslash; `Format.unescape` treats a whole
  text, up to an escape that ends all output.
- **Conversions.** `Conversion` with its width and precision, which may be arguments themselves;
  `Conversion.apply` to an argument.
- **Formats.** `Format.items` cuts a format into pieces, and `Format.run` applies it to arguments.
-/

namespace CommandShell

namespace Script

/-! ## Results -/

/-- The result of formatting: the text, the complaints about arguments, and whether all output ends
    here, perhaps because the format makes no sense. -/
structure Formatted where
  text : Text := []
  complaints : List Text := []
  ended : Bool := false
  failure : Option Text := none
  deriving DecidableEq, Repr

/-- One result after another, unless the first one ends the output. -/
def Formatted.append (a b : Formatted) : Formatted :=
  if a.ended then a else ⟨a.text ++ b.text, a.complaints ++ b.complaints, b.ended, b.failure⟩

/-- A result that ends all output with a complaint. -/
def Formatted.fail (complaint : Text) : Formatted := { ended := true, failure := some complaint }

namespace Format

/-! ## Escapes -/

/-- The character that a letter stands for after a backslash. -/
def letter? : Char → Option Char
  | 'a' => some '\x07'
  | 'b' => some '\x08'
  | 'e' => some '\x1b'
  | 'f' => some '\x0c'
  | 'n' => some '\n'
  | 'r' => some '\r'
  | 't' => some '\t'
  | 'v' => some '\x0b'
  | '\\' => some '\\'
  | _ => none

/-- The character of a number written with octal digits; only its low eight bits count. -/
def ofOctal (digits : Text) : Char := Char.ofNat (Numeral.ofDigits 8 digits % 256)

/-- The character that the text after a backslash begins with, and what follows it. A backslash that
    begins no escape stands for itself. -/
def escape (cs : Text) : Char × Text :=
  match cs with
  | [] => ('\\', [])
  | c :: rest =>
    match letter? c with
    | some d => (d, rest)
    | none =>
      if Numeral.isOctal c then
        let digits := (cs.take 3).takeWhile Numeral.isOctal
        (ofOctal digits, cs.drop digits.length)
      else ('\\', cs)

/-- The text with its escapes replaced, in at most so many steps. Here octal digits may follow a
    zero, and a backslash with a `c` ends all output. -/
def unescapeFrom : Nat → Text → Formatted
  | 0, _ => {}
  | _ + 1, [] => {}
  | _ + 1, '\\' :: 'c' :: _ => { ended := true }
  | n + 1, '\\' :: '0' :: rest =>
    let digits := (rest.take 3).takeWhile Numeral.isOctal
    Formatted.append { text := [ofOctal digits] } (unescapeFrom n (rest.drop digits.length))
  | n + 1, '\\' :: rest =>
    let (c, after) := escape rest
    Formatted.append { text := [c] } (unescapeFrom n after)
  | n + 1, c :: rest => Formatted.append { text := [c] } (unescapeFrom n rest)

/-- The text with its escapes replaced. -/
def unescape (cs : Text) : Formatted := unescapeFrom cs.length cs

end Format

/-! ## Conversions -/

/-- A width or a precision: written in the format, or an argument. -/
inductive Size where
  | fixed (n : Nat)
  | argument
  deriving DecidableEq, Repr

/-- A conversion of a format. -/
structure Conversion where
  left : Bool := false
  zeros : Bool := false
  plus : Bool := false
  blank : Bool := false
  alternate : Bool := false
  width : Size := .fixed 0
  precision : Option Size := none
  kind : Char
  /-- The conversion as it is written. -/
  written : Text := []
  deriving DecidableEq, Repr

/-- A conversion whose width and precision are known. -/
structure Layout where
  conversion : Conversion
  left : Bool
  width : Nat
  precision : Option Nat
  deriving DecidableEq, Repr

namespace Layout

/-- A text that is padded to the width; zeros go between a sign and the rest. -/
def pad (l : Layout) (zeros : Bool) (sign body : Text) : Text :=
  let gap := l.width - (sign.length + body.length)
  if l.left then sign ++ body ++ List.replicate gap ' '
  else if zeros then sign ++ List.replicate gap '0' ++ body
  else List.replicate gap ' ' ++ sign ++ body

/-- A text, cut at the precision. -/
def text (l : Layout) (s : Text) : Text := l.pad false [] (s.take (l.precision.getD s.length))

/-- The sign of a number. -/
def sign (l : Layout) (negative : Bool) : Text :=
  if negative then ['-'] else if l.conversion.plus then ['+']
  else if l.conversion.blank then [' '] else []

/-- The digits of a number, as many as the precision asks for. -/
def digits (l : Layout) (base n : Nat) : Text :=
  let ds := if n = 0 ∧ l.precision = some 0 then [] else Nat.toDigits base n
  List.replicate (l.precision.getD 1 - ds.length) '0' ++ ds

/-- A whole number in decimal. -/
def integer (l : Layout) (n : Int) : Text :=
  l.pad (l.conversion.zeros && l.precision.isNone) (l.sign (n < 0)) (l.digits 10 n.natAbs)

/-- The bits of a whole number in a base. -/
def bits (l : Layout) (base : Nat) (n : Nat) : Text :=
  let ds := l.digits base n
  let lead := if !l.conversion.alternate then []
    else if base = 16 ∧ n ≠ 0 then "0x".toList
    else if base = 8 ∧ ds.head? ≠ some '0' then ['0'] else []
  l.pad (l.conversion.zeros && l.precision.isNone) lead ds

/-- A number with a fraction. -/
def real (l : Layout) (r : Floating) : Text :=
  let sign := l.sign r.isNegative
  match r with
  | .infinite _ => l.pad false sign "inf".toList
  | .undefined => l.pad false sign "nan".toList
  | .finite _ m e =>
    let (n, d) := Floating.ratio m e
    let places := l.precision.getD 6
    let (lead, body) := match l.conversion.kind.toLower with
      | 'f' => ([], Floating.fixed n d places l.conversion.alternate)
      | 'e' => ([], Floating.scientific n d places l.conversion.alternate)
      | 'a' => ("0x".toList, Floating.hexadecimal m e l.precision l.conversion.alternate)
      | _ => ([], Floating.general n d places l.conversion.alternate)
    l.pad l.conversion.zeros (sign ++ lead) body

end Layout

namespace Conversion

/-- The complaint about an argument of which only a part could be used. -/
def complaintsOf (given rest : Text) (inRange : Bool) : List Text :=
  if rest ≠ [] then
    if rest = given then [given ++ ": expected numeric value".toList]
    else [given ++ ": not completely converted".toList]
  else if inRange then [] else [given ++ ": Numerical result out of range".toList]

/-- The number of the character after a quote, if an argument begins with one. -/
def quoted? (given : Text) : Option Nat :=
  match given with
  | q :: rest => if q = '\'' ∨ q = '"' then some ((rest.head?.map Char.toNat).getD 0) else none
  | [] => none

/-- An argument as a whole number: a missing or empty one is 0, and one that is not a number up to
    its end is complained about. -/
def integerOf (arg : Option Text) : Int × List Text :=
  let given := arg.getD []
  match quoted? given with
  | some n => (n, [])
  | none =>
    let (n, rest) := Numeral.integerPrefix given
    (Numeral.clamp n, complaintsOf given rest (Numeral.isInRange n))

/-- An argument as 64 bits. -/
def bitsOf (arg : Option Text) : Nat × List Text :=
  let given := arg.getD []
  match quoted? given with
  | some n => (n, [])
  | none =>
    let (n, rest) := Numeral.integerPrefix given
    let inRange := n.natAbs < Numeral.modulus
    (if inRange then (n % Numeral.modulus).toNat else Numeral.modulus - 1,
      complaintsOf given rest inRange)

/-- An argument as a number with a fraction. -/
def realOf (arg : Option Text) : Floating × List Text :=
  let given := arg.getD []
  match quoted? given with
  | some n => (Floating.ofRatio false n 1, [])
  | none =>
    match Floating.Reading.prefix? given with
    | none => (.finite false 0 0, complaintsOf given given true)
    | some r => (r.value, complaintsOf given r.rest r.inRange)

/-- A conversion with its argument. -/
def apply (l : Layout) (arg : Option Text) : Formatted :=
  let given := arg.getD []
  let upper := fun (s : Text) => if l.conversion.kind.isUpper then s.map Char.toUpper else s
  let unsigned := fun (base : Nat) =>
    let (n, complaints) := bitsOf arg
    { text := upper (l.bits base n), complaints := complaints : Formatted }
  match l.conversion.kind with
  | 's' => { text := l.text given }
  | 'c' => { text := l.pad false [] [given.headD '\x00'] }
  | 'b' =>
    let inner := Format.unescape given
    { inner with text := l.text inner.text }
  | 'd' | 'i' =>
    let (n, complaints) := integerOf arg
    { text := l.integer n, complaints := complaints }
  | 'u' => unsigned 10
  | 'o' => unsigned 8
  | 'x' | 'X' => unsigned 16
  | 'e' | 'f' | 'g' | 'a' | 'E' | 'F' | 'G' | 'A' =>
    let (r, complaints) := realOf arg
    { text := upper (l.real r), complaints := complaints }
  | _ => .fail (l.conversion.written ++ ": invalid directive".toList)

end Conversion

namespace Format

/-! ## Formats -/

/-- A piece of a format. -/
inductive Item where
  | text (c : Char)
  | conversion (c : Conversion)
  /-- A percent sign without a conversion. -/
  | incomplete
  deriving DecidableEq, Repr

/-- The size at the start of a text, and what follows it. -/
def sizePrefix (cs : Text) : Size × Text :=
  match cs with
  | '*' :: rest => (.argument, rest)
  | _ => (.fixed (number (cs.takeWhile Char.isDigit)), cs.dropWhile Char.isDigit)

/-- The conversion after a percent sign, and what follows it. -/
def conversion? (cs : Text) : Option (Conversion × Text) :=
  let isFlag := fun c : Char => c ∈ ['-', '0', '+', ' ', '#']
  let flags := cs.takeWhile isFlag
  let (width, rest) := sizePrefix (cs.dropWhile isFlag)
  let (precision, rest) := match rest with
    | '.' :: more =>
      let (size, rest) := sizePrefix more
      (some size, rest)
    | _ => (none, rest)
  match rest with
  | [] => none
  | kind :: after =>
    some ({ left := '-' ∈ flags, zeros := '0' ∈ flags, plus := '+' ∈ flags, blank := ' ' ∈ flags,
            alternate := '#' ∈ flags, width := width, precision := precision, kind := kind,
            written := '%' :: cs.take (cs.length - after.length) }, after)

/-- The pieces of a format, in at most so many steps. -/
def itemsFrom : Nat → Text → List Item
  | 0, _ => []
  | _ + 1, [] => []
  | n + 1, '\\' :: rest =>
    let (c, after) := escape rest
    .text c :: itemsFrom n after
  | n + 1, '%' :: '%' :: rest => .text '%' :: itemsFrom n rest
  | n + 1, '%' :: rest =>
    match conversion? rest with
    | some (c, after) => .conversion c :: itemsFrom n after
    | none => [.incomplete]
  | n + 1, c :: rest => .text c :: itemsFrom n rest

/-- The pieces of a format. -/
def items (format : Text) : List Item := itemsFrom format.length format

/-- How many sizes there are; larger numbers lose their higher bits. -/
def sizes : Nat := 4294967296

/-- The value of a size, the complaints about it, and the arguments that are left. -/
def sizeValue (s : Size) (args : List Text) : Int × List Text × List Text :=
  match s with
  | .fixed n => (n, [], args)
  | .argument =>
    let (n, complaints) := Conversion.integerOf args.head?
    (n.bmod sizes, complaints, args.drop 1)

/-- Applies a conversion to the first of some arguments, after those that are sizes; also the
    arguments that are left. A negative width means padding on the right, and a negative precision
    means none. -/
def applyConversion (c : Conversion) (args : List Text) : Formatted × List Text :=
  let (width, first, args) := sizeValue c.width args
  let (precision, second, args) := match c.precision with
    | none => (-1, [], args)
    | some size => sizeValue size args
  let layout : Layout :=
    { conversion := c, left := c.left || width < 0, width := width.natAbs,
      precision := if precision < 0 then none else some precision.natAbs }
  let result := Conversion.apply layout args.head?
  ({ result with complaints := first ++ second ++ result.complaints }, args.drop 1)

/-- Applies the pieces of a format to arguments; also the arguments that are left. -/
def applyItems : List Item → List Text → Formatted × List Text
  | [], args => ({}, args)
  | .text c :: rest, args =>
    let (after, left) := applyItems rest args
    (Formatted.append { text := [c] } after, left)
  | .incomplete :: _, args => (.fail "missing format character".toList, args)
  | .conversion c :: rest, args =>
    let (first, args) := applyConversion c args
    let (after, left) := applyItems rest args
    (first.append after, left)

/-- Applies the pieces of a format again and again, at most so many times, while arguments are left
    and it takes some. -/
def repeatItems (items : List Item) : Nat → List Text → Formatted
  | 0, _ => {}
  | n + 1, args =>
    let (first, left) := applyItems items args
    if left = [] ∨ left = args then first else first.append (repeatItems items n left)

/-- A format applied to arguments. -/
def run (format : Text) (args : List Text) : Formatted :=
  repeatItems (items format) (args.length + 1) args

example : (run "[%s] %d%%\\n".toList ["a".toList, "7".toList]).text = "[a] 7%\n".toList := by
  decide

example : (run "%s-%*d|".toList ["a".toList, "3".toList, "7".toList]).text = "a-  7|".toList := by
  decide

end Format

end Script

end CommandShell
