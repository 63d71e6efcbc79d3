import CommandShell.Script.Command.Basic
import CommandShell.Script.Numeral

/-!
# `CommandShell.Script.Command.Test` — conditions

The language of `test`: operators with one and with two operands, joined by `-a` and `-o` and
grouped by parentheses. What a word is depends on the words around it.

## Contents
- **Operators.** `OperatorKind` with its words; `frontKind?` is the kind of the operator that stands
  at the front of some words.
- **Values.** `Interpreter.testOne` and `Interpreter.testTwo`.
- **Conditions.** `Condition.either`, `both`, `negated` and `primary` read and decide a condition,
  and leave the word that they ended at in front.
- **Commands.** `runTest` and, with brackets around, `runBracket`.
-/

namespace CommandShell

namespace Script

/-! ## Operators -/

/-- The kinds of operators. -/
inductive OperatorKind where
  /-- With one operand. -/
  | one
  /-- With two operands. -/
  | two
  | not
  | and
  | or
  | opening
  | closing
  deriving DecidableEq, Repr

/-- The operators with one operand. -/
def unaryOperators : List String :=
  ["-r", "-w", "-x", "-e", "-f", "-d", "-c", "-b", "-p", "-u", "-g", "-k", "-s", "-t", "-z", "-n",
   "-h", "-O", "-G", "-L", "-S"]

/-- The operators with two operands. -/
def binaryOperators : List String :=
  ["=", "!=", "<", ">", "-eq", "-ne", "-ge", "-gt", "-le", "-lt", "-nt", "-ot", "-ef"]

/-- The kind of the operator that a word is by itself. -/
def operatorKind? (word : Text) : Option OperatorKind :=
  if unaryOperators.contains (String.ofList word) then some .one
  else if binaryOperators.contains (String.ofList word) then some .two
  else if word = ['!'] then some .not
  else if word = "-a".toList then some .and
  else if word = "-o".toList then some .or
  else if word = ['('] then some .opening
  else if word = [')'] then some .closing
  else none

/-- Whether an operator with one operand is an operand itself: nothing follows it, or another
    operator and something more. -/
def isOperand : List Text → Bool
  | [] => true
  | [_] => false
  | next :: _ :: _ => operatorKind? next == some .two

/-- The kind of the operator at the front of some words; none, if there is an operand. -/
def frontKind? : List Text → Option OperatorKind
  | [] => none
  | word :: rest =>
    match operatorKind? word with
    | some .one => if isOperand rest then none else some .one
    | some .opening => if rest = [] then none else some .opening
    | kind => kind

/-! ## Values -/

namespace Interpreter

/-- Whether what a path leads to passes a test. -/
def testNode (i : Interpreter) (path : Text) (p : Node → Bool) : Bool :=
  match i.world.files.stat i.world.workDir (toBytes path) with
  | .ok n => p n
  | .error _ => false

/-- Whether a path itself is a symbolic link. -/
def testLink (i : Interpreter) (path : Text) : Bool :=
  match i.world.files.entry i.world.workDir (toBytes path) with
  | .ok (.link _) => true
  | _ => false

/-- The number of an operand, or a complaint. -/
def testNumber (s : Text) : Except Text Int :=
  match (Numeral.decimal? s).filter Numeral.isInRange with
  | some n => .ok n
  | none => .error ("Illegal number: ".toList ++ s)

/-- The value of an operator with one operand. -/
def testOne (i : Interpreter) (operator operand : Text) : Except Text Bool :=
  match operator with
  | ['-', 'z'] => .ok (operand == [])
  | ['-', 'n'] => .ok (operand != [])
  | ['-', 't'] => do
    let n ← testNumber operand
    return 0 ≤ n && i.streams.channel? n.toNat == some Channel.keyboard
  | ['-', 'h'] | ['-', 'L'] => .ok (i.testLink operand)
  | ['-', 'e'] | ['-', 'O'] | ['-', 'G'] => .ok (i.testNode operand fun _ => true)
  | ['-', 'f'] => .ok (i.testNode operand Node.isRegular)
  | ['-', 'd'] => .ok (i.testNode operand Node.isDirectory)
  | ['-', 'c'] => .ok (i.testNode operand fun n => n == .nullDevice || n == .fullDevice)
  | ['-', 's'] => .ok (i.testNode operand fun n => match n with
    | .file content _ => content != []
    | .nullDevice | .fullDevice => false
    | _ => true)
  | ['-', 'r'] => .ok (i.testNode operand fun n => match n with
    | .file _ mode => mode.ownerReads
    | _ => true)
  | ['-', 'w'] => .ok (i.testNode operand fun n => match n with
    | .file _ mode => mode.ownerWrites
    | .directory writable => writable
    | .interpreter => false
    | _ => true)
  | ['-', 'x'] => .ok (i.testNode operand fun n => n.isDirectory || n.ownerExecutes)
  | _ => .ok false

/-- Whether two paths lead to one place. -/
def testSame (i : Interpreter) (a b : Text) : Bool :=
  let place := fun path =>
    (i.world.files.locate i.world.workDir (toBytes path)).toOption.map Prod.fst
  (place a).isSome && place a == place b

/-- The value of an operator with two operands. No file is newer than another one. -/
def testTwo (i : Interpreter) (a operator b : Text) : Except Text Bool :=
  let numbers := fun (p : Int → Int → Bool) => do return p (← testNumber a) (← testNumber b)
  match String.ofList operator with
  | "=" => .ok (a == b)
  | "!=" => .ok (a != b)
  | "<" => .ok (decide (a < b))
  | ">" => .ok (decide (b < a))
  | "-eq" => numbers fun x y => x == y
  | "-ne" => numbers fun x y => x != y
  | "-lt" => numbers fun x y => x < y
  | "-le" => numbers fun x y => x ≤ y
  | "-gt" => numbers fun x y => x > y
  | "-ge" => numbers fun x y => x ≥ y
  | "-ef" => .ok (i.testSame a b)
  | _ => .ok false

end Interpreter

/-! ## Conditions -/

/-- A complaint about a word; an empty word is not shown. -/
def complaintAt (word : Text) (message : String) : Text :=
  if word = [] then message.toList else word ++ ": ".toList ++ message.toList

namespace Condition

mutual

/-- A condition with `-o`, read in at most so many steps. The words that are left begin with the
    last one of the condition. -/
def either (i : Interpreter) : Nat → List Text → Except Text (Bool × List Text)
  | 0, ws => .ok (false, ws)
  | n + 1, ws => do
    let (a, ws) ← both i n ws
    if frontKind? (ws.drop 1) = some .or then
      let (b, ws) ← either i n (ws.drop 2)
      return (a || b, ws)
    else return (a, ws)

/-- A condition with `-a`. -/
def both (i : Interpreter) : Nat → List Text → Except Text (Bool × List Text)
  | 0, ws => .ok (false, ws)
  | n + 1, ws => do
    let (a, ws) ← negated i n (frontKind? ws) ws
    if frontKind? (ws.drop 1) = some .and then
      let (b, ws) ← both i n (ws.drop 2)
      return (a && b, ws)
    else return (a, ws)

/-- A condition that may be negated, whose first word is of a kind. -/
def negated (i : Interpreter) : Nat → Option OperatorKind → List Text →
    Except Text (Bool × List Text)
  | 0, _, ws => .ok (false, ws)
  | n + 1, kind, ws =>
    if kind = some .not then
      match ws.drop 1 with
      | [] => .ok (true, ws)
      | rest => do
        let (a, left) ← negated i n (frontKind? rest) rest
        return (!a, left)
    else primary i n kind ws

/-- A condition without conjunctions, whose first word is of a kind. -/
def primary (i : Interpreter) : Nat → Option OperatorKind → List Text →
    Except Text (Bool × List Text)
  | 0, _, ws => .ok (false, ws)
  | n + 1, kind, ws =>
    match ws with
    | [] => .ok (false, [])
    | word :: rest =>
      if kind = some .opening then
        if frontKind? rest = some .closing then .ok (false, rest)
        else do
          let (a, left) ← either i n rest
          if frontKind? (left.drop 1) = some .closing then return (a, left.drop 1)
          else throw "closing paren expected".toList
      else if kind = some .one then
        match rest with
        | [] => .error (complaintAt word "argument expected")
        | operand :: _ => do return (← i.testOne word operand, rest)
      else if frontKind? rest = some .two then
        match rest with
        | [] => .ok (word != [], ws)
        | [operator] => .error (complaintAt operator "argument expected")
        | operator :: operand :: more => do
          return (← i.testTwo word operator operand, operand :: more)
      else .ok (word != [], ws)

end

/-- The value of all words as one condition. -/
def whole (i : Interpreter) (ws : List Text) : Except Text Bool := do
  let (value, left) ← either i (4 * ws.length + 8) ws
  match left with
  | word :: _ :: _ => throw (complaintAt word "unexpected operator")
  | _ => return value

/-- The value of a condition, or the opposite of it. With three or four words, the operator between
    two operands comes first, then parentheses around all, then a negation of all; the second of two
    such negations changes nothing. -/
def decideWords (i : Interpreter) (opposite : Bool) : List Text → Except Text Bool
  | [] => .ok false
  | first :: rest =>
    let value := fun ws => (whole i ws).map (xor opposite)
    match rest with
    | [operator, second] =>
      if operatorKind? operator = some .two then
        (i.testTwo first operator second).map (xor opposite)
      else if first = ['('] ∧ second = [')'] then value [operator]
      else if first = ['!'] then decideWords i true rest
      else value (first :: rest)
    | [a, b, last] =>
      if first = ['('] ∧ last = [')'] then value [a, b]
      else if first = ['!'] then decideWords i true rest
      else value (first :: rest)
    | rest => value (first :: rest)

end Condition

/-! ## Commands -/

/-- Decides a condition. -/
def runCondition : Action := fun i args =>
  match Condition.decideWords i false args with
  | .ok value => i.ended (if value then 0 else 1)
  | .error complaint => i.fail complaint

/-- `test`. -/
def runTest : Action := runCondition

/-- `[`: a condition up to the closing bracket. -/
def runBracket : Action := fun i args =>
  if args.getLast? = some [']'] then runCondition i args.dropLast
  else i.fail "missing ]".toList

end Script

end CommandShell
