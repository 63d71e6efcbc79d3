import CommandShell.Script.Numeral

/-!
# `CommandShell.Script.Arithmetic` — arithmetic expressions

Expressions over whole numbers of 64 bits and the variables of a script. Results that are out of
range wrap around.

## Contents
- **Operators.** `Operator` with its rank and its result.
- **Expressions.** `Expression`.
- **Symbols.** `Arithmetic.symbols` cuts a text into numbers, names and signs.
- **Reading.** `Arithmetic.read` makes an expression of symbols, by recursive descent; where
  something is missing the expression says so.
- **Values.** `Expression.value` is the value of an expression; assignments in it are seen by what
  follows them. `Arithmetic.evaluate` does all of it for a text.
-/

namespace CommandShell

namespace Script

namespace Arithmetic

/-! ## Operators -/

/-- An operator with two operands that are both needed. -/
inductive Operator where
  | times
  | quotient
  | remainder
  | plus
  | minus
  | shiftLeft
  | shiftRight
  | less
  | lessEqual
  | greater
  | greaterEqual
  | equal
  | unequal
  | bitAnd
  | bitXor
  | bitOr
  deriving DecidableEq, Repr

/-- A truth value as a number. -/
def ofBool (b : Bool) : Int := if b then 1 else 0

/-- A number with all its bits, as a natural number. -/
def toBits (n : Int) : Nat := (n % Numeral.modulus).toNat

/-- The number that some bits make. -/
def ofBits (n : Nat) : Int := Numeral.wrap n

namespace Operator

/-- How tightly an operator binds; a smaller rank binds tighter. -/
def rank : Operator → Nat
  | .times | .quotient | .remainder => 1
  | .plus | .minus => 2
  | .shiftLeft | .shiftRight => 3
  | .less | .lessEqual | .greater | .greaterEqual => 4
  | .equal | .unequal => 5
  | .bitAnd => 6
  | .bitXor => 7
  | .bitOr => 8

/-- The loosest rank. -/
def lastRank : Nat := 8

/-- The result of an operator; there is none for a division by zero. -/
def result? (o : Operator) (a b : Int) : Option Int :=
  match o with
  | .times => some (Numeral.wrap (a * b))
  | .quotient => if b = 0 then none else some (Numeral.wrap (Int.tdiv a b))
  | .remainder => if b = 0 then none else some (Int.tmod a b)
  | .plus => some (Numeral.wrap (a + b))
  | .minus => some (Numeral.wrap (a - b))
  | .shiftLeft => some (Numeral.wrap (a <<< (toBits b % 64)))
  | .shiftRight => some (a >>> (toBits b % 64))
  | .less => some (ofBool (a < b))
  | .lessEqual => some (ofBool (a ≤ b))
  | .greater => some (ofBool (a > b))
  | .greaterEqual => some (ofBool (a ≥ b))
  | .equal => some (ofBool (a == b))
  | .unequal => some (ofBool (a != b))
  | .bitAnd => some (ofBits (toBits a &&& toBits b))
  | .bitXor => some (ofBits (toBits a ^^^ toBits b))
  | .bitOr => some (ofBits (toBits a ||| toBits b))

/-- The operators that are written with a sign. -/
def table : List (String × Operator) :=
  [("*", .times), ("/", .quotient), ("%", .remainder), ("+", .plus), ("-", .minus),
   ("<<", .shiftLeft), (">>", .shiftRight), ("<", .less), ("<=", .lessEqual), (">", .greater),
   (">=", .greaterEqual), ("==", .equal), ("!=", .unequal), ("&", .bitAnd), ("^", .bitXor),
   ("|", .bitOr)]

/-- The operator of a sign. -/
def ofSign? (sign : String) : Option Operator := table.lookup sign

/-- The operators that an assignment may be joined with. -/
def ofAssignment? (sign : String) : Option Operator :=
  match sign with
  | "*=" => some .times
  | "/=" => some .quotient
  | "%=" => some .remainder
  | "+=" => some .plus
  | "-=" => some .minus
  | "<<=" => some .shiftLeft
  | ">>=" => some .shiftRight
  | "&=" => some .bitAnd
  | "^=" => some .bitXor
  | "|=" => some .bitOr
  | _ => none

end Operator

/-! ## Expressions -/

/-- An arithmetic expression, also one that is cut short. -/
inductive Expression where
  | number (n : Int)
  | named (name : Text)
  | negative (e : Expression)
  /-- 1 for zero, else 0. -/
  | isZero (e : Expression)
  /-- Every bit turned over. -/
  | complement (e : Expression)
  | binary (o : Operator) (a b : Expression)
  /-- The second is looked at only if the first is not zero. -/
  | both (a b : Expression)
  /-- The second is looked at only if the first is zero. -/
  | either (a b : Expression)
  | choice (test yes no : Expression)
  | assign (name : Text) (o : Option Operator) (e : Expression)
  /-- There is no expression; what was expected. -/
  | missing (expected : Text)
  /-- Something is missing after the expression; what was expected. -/
  | unfinished (e : Expression) (expected : Text)
  deriving DecidableEq, Repr

/-- What was expected at the first place where something is missing. -/
def Expression.expected? : Expression → Option Text
  | .number _ | .named _ => none
  | .negative e | .isZero e | .complement e | .assign _ _ e => e.expected?
  | .binary _ a b | .both a b | .either a b => a.expected? <|> b.expected?
  | .choice test yes no => test.expected? <|> yes.expected? <|> no.expected?
  | .missing expected => some expected
  | .unfinished e expected => e.expected? <|> some expected

/-! ## Symbols -/

/-- A symbol of an expression. -/
inductive Symbol where
  | number (n : Int)
  | name (s : Text)
  | sign (s : String)
  /-- A character that has no meaning. -/
  | other
  deriving DecidableEq, Repr

/-- The signs, the longer ones in front. -/
def signs : List String :=
  ["<<=", ">>=", "<<", ">>", "<=", ">=", "==", "!=", "&&", "||", "*=", "/=", "%=", "+=", "-=", "&=",
   "^=", "|=", "*", "/", "%", "+", "-", "<", ">", "&", "^", "|", "!", "~", "?", ":", "(", ")", "="]

/-- The symbols of a text, in at most so many steps. -/
def symbolsFrom : Nat → Text → List Symbol
  | 0, _ => []
  | _ + 1, [] => []
  | n + 1, c :: rest =>
    if Numeral.isBlank c then symbolsFrom n rest
    else if c.isDigit then
      let (value, after) := Numeral.naturalPrefix (c :: rest)
      .number (Numeral.clamp value) :: symbolsFrom n after
    else if startsName c then
      let name := (c :: rest).takeWhile inName
      .name name :: symbolsFrom n ((c :: rest).drop name.length)
    else match signs.find? fun s => s.toList.isPrefixOf (c :: rest) with
      | some s => .sign s :: symbolsFrom n ((c :: rest).drop s.length)
      | none => .other :: symbolsFrom n rest

/-- The symbols of a text. -/
def symbols (text : Text) : List Symbol := symbolsFrom text.length text

/-! ## Reading -/

/-- An expression and what follows it. -/
abbrev Reading := Expression × List Symbol

/-- There is no operand. Nothing is read after it. -/
def noOperand : Reading := (.missing "expecting primary".toList, [])

mutual

/-- Reads an operand. -/
def operand : Nat → List Symbol → Reading
  | _ + 1, .number k :: rest => (.number k, rest)
  | _ + 1, .name s :: rest => (.named s, rest)
  | n + 1, .sign "(" :: rest =>
    match assignment n rest with
    | (e, .sign ")" :: rest) => (e, rest)
    | (e, _) => (.unfinished e "expecting ')'".toList, [])
  | n + 1, .sign "+" :: rest => operand n rest
  | n + 1, .sign "-" :: rest => (operand n rest).map .negative id
  | n + 1, .sign "!" :: rest => (operand n rest).map .isZero id
  | n + 1, .sign "~" :: rest => (operand n rest).map .complement id
  | _, _ => noOperand

/-- Reads the operators of some rank, and their right operands, after a left operand. -/
def joined : Nat → Nat → Expression → List Symbol → Reading
  | n + 1, rank, a, .sign s :: rest =>
    match (Operator.ofSign? s).filter fun o => o.rank = rank with
    | none => (a, .sign s :: rest)
    | some o =>
      let (b, rest) := ranked n (rank - 1) rest
      joined n rank (.binary o a b) rest
  | _, _, a, ss => (a, ss)

/-- Reads operators up to some rank, with their operands. -/
def ranked : Nat → Nat → List Symbol → Reading
  | 0, _, _ => noOperand
  | n + 1, 0, ss => operand n ss
  | n + 1, rank + 1, ss =>
    let (a, rest) := ranked n rank ss
    joined n (rank + 1) a rest

/-- Reads expressions joined by `&&`. -/
def conjunction : Nat → List Symbol → Reading
  | 0, _ => noOperand
  | n + 1, ss =>
    match ranked n Operator.lastRank ss with
    | (a, .sign "&&" :: rest) => (conjunction n rest).map (.both a) id
    | (a, rest) => (a, rest)

/-- Reads expressions joined by `||`. -/
def disjunction : Nat → List Symbol → Reading
  | 0, _ => noOperand
  | n + 1, ss =>
    match conjunction n ss with
    | (a, .sign "||" :: rest) => (disjunction n rest).map (.either a) id
    | (a, rest) => (a, rest)

/-- Reads a choice between two expressions. -/
def conditional : Nat → List Symbol → Reading
  | 0, _ => noOperand
  | n + 1, ss =>
    match disjunction n ss with
    | (test, .sign "?" :: rest) =>
      match assignment n rest with
      | (yes, .sign ":" :: rest) => (conditional n rest).map (.choice test yes) id
      | (yes, _) => (.choice test yes (.missing "expecting ':'".toList), [])
    | (test, rest) => (test, rest)

/-- Reads an assignment, or another expression. -/
def assignment : Nat → List Symbol → Reading
  | 0, _ => noOperand
  | n + 1, .name s :: .sign "=" :: rest => (assignment n rest).map (.assign s none) id
  | n + 1, .name s :: .sign sign :: rest =>
    match Operator.ofAssignment? sign with
    | some o => (assignment n rest).map (.assign s (some o)) id
    | none => conditional n (.name s :: .sign sign :: rest)
  | n + 1, ss => conditional n ss

end

/-- The expression of some symbols. A symbol takes no more than sixteen steps. -/
def read (ss : List Symbol) : Expression :=
  match assignment (16 * (ss.length + 1)) ss with
  | (e, []) => e
  | (e, _) => .unfinished e "expecting EOF".toList

/-! ## Values -/

/-- Why an expression has no value. -/
inductive Trouble where
  /-- It makes no sense; what was expected. -/
  | expression (reason : Text)
  /-- The value of a variable is no number. -/
  | value (s : Text)
  deriving DecidableEq, Repr

/-- The variables that have been assigned so far, the last one in front. -/
abbrev Assigned := List (Text × Int)

/-- The value of a variable, which counts as zero if it is unset or blank. -/
def variableValue (lookup? : Text → Option Text) (assigned : Assigned) (name : Text) :
    Except Trouble Int :=
  match assigned.lookup name with
  | some n => .ok n
  | none =>
    let s := (lookup? name).getD []
    if s.all Numeral.isBlank then .ok 0
    else match (Numeral.integer? s).filter Numeral.isInRange with
      | some n => .ok n
      | none => .error (.value s)

/-- The result of an operator. -/
def applied (o : Operator) (a b : Int) : Except Trouble Int :=
  match o.result? a b with
  | some n => .ok n
  | none => .error (.expression "division by zero".toList)

/-- An expression that is not looked at may still be cut short. -/
def skip (e : Expression) : Except Trouble Unit :=
  match e.expected? with
  | some expected => .error (.expression expected)
  | none => .ok ()

/-- The value of an expression, and what has been assigned then. Trouble comes up where it stands,
    so a division by zero counts more than what is missing after it. -/
def Expression.value (lookup? : Text → Option Text) :
    Expression → Assigned → Except Trouble (Int × Assigned)
  | .number n, as => .ok (n, as)
  | .named name, as => do return (← variableValue lookup? as name, as)
  | .negative e, as => do
    let (n, as) ← e.value lookup? as
    return (Numeral.wrap (-n), as)
  | .isZero e, as => do
    let (n, as) ← e.value lookup? as
    return (ofBool (n == 0), as)
  | .complement e, as => do
    let (n, as) ← e.value lookup? as
    return (-n - 1, as)
  | .binary o a b, as => do
    let (m, as) ← a.value lookup? as
    let (n, as) ← b.value lookup? as
    return (← applied o m n, as)
  | .both a b, as => do
    let (m, as) ← a.value lookup? as
    if m = 0 then
      skip b
      return (0, as)
    else
      let (n, as) ← b.value lookup? as
      return (ofBool (n != 0), as)
  | .either a b, as => do
    let (m, as) ← a.value lookup? as
    if m ≠ 0 then
      skip b
      return (1, as)
    else
      let (n, as) ← b.value lookup? as
      return (ofBool (n != 0), as)
  | .choice test yes no, as => do
    let (m, as) ← test.value lookup? as
    if m ≠ 0 then
      let result ← yes.value lookup? as
      skip no
      return result
    else
      skip yes
      no.value lookup? as
  | .assign name o e, as => do
    let (n, as) ← e.value lookup? as
    match o with
    | none => return (n, (name, n) :: as)
    | some o =>
      let r ← applied o (← variableValue lookup? as name) n
      return (r, (name, r) :: as)
  | .missing expected, _ => .error (.expression expected)
  | .unfinished e expected, as => do
    let _ ← e.value lookup? as
    .error (.expression expected)

/-- The value of a text as an expression, and the assignments in it in their order. -/
def evaluate (lookup? : Text → Option Text) (text : Text) :
    Except Trouble (Int × List (Text × Int)) := do
  let (n, as) ← (read (symbols text)).value lookup? []
  return (n, as.reverse)

example : (evaluate (fun _ => none) "(1 + 2) * 3 - 7 / 2".toList).toOption = some (6, []) := by
  decide +kernel

example : (evaluate (fun _ => none) "1 / 0 + (2".toList).toOption = none := by
  decide +kernel

end Arithmetic

end Script

end CommandShell
