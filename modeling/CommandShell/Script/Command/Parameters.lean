import CommandShell.Script.Command.Variables

/-!
# `CommandShell.Script.Command.Parameters` — the commands about positional parameters

## Contents
- **Setting.** `runSet` changes options and positional parameters, `runShift` drops some.
- **Options of scripts.** `OptionScan` looks at arguments for options, one option at a time, and
  `runGetopts` does so for a script.
-/

namespace CommandShell

namespace Script

namespace Interpreter

/-! ## Setting -/

/-- The script with other positional parameters. Looking for options begins anew. -/
def setArgs (i : Interpreter) (args : List Text) : Interpreter :=
  { i with args := args, optionNext := 1, optionPlace := none }

end Interpreter

/-- `set`: other options and, if any are given, other positional parameters; without arguments, a
    list of the variables. -/
def runSet : Action := fun i args =>
  if args = [] then (i.ended 0).print (i.listing [] fun v => v.value.isSome)
  else match Options.read false i.options args with
    | .error complaint => i.fail complaint
    | .ok r =>
      let told := if r.options.has 'm' && !i.has 'm' then
          { i.complain "can't access tty; job control turned off".toList with
            options := r.options.put 'm' false }
        else { i with options := r.options }
      let changed := if r.isMarked || r.rest != [] then told.setArgs r.rest else told
      (changed.ended 0).print r.shown

/-- `shift`: drops positional parameters from the front. -/
def runShift : Action := fun i args =>
  i.withNumber (args.headD ['1']) fun n =>
    if n ≤ i.args.length then (i.setArgs (i.args.drop n)).ended 0
    else i.fail "can't shift that many".toList

/-! ## Options of scripts -/

/-- One look at arguments for an option. -/
structure OptionScan where
  /-- The letter that was found, a question mark or a colon. -/
  found : Char := '?'
  /-- The text of the option; nothing, if it is to be forgotten. -/
  text : Option Text := none
  /-- Whether the text is left as it is. -/
  keepsText : Bool := false
  complaint : Option Text := none
  /-- The number of the argument that is looked at next. -/
  next : Nat
  /-- How many characters of the argument before that one have been looked at. -/
  place : Option Nat := none
  /-- Whether there are no more options. -/
  ended : Bool := false

namespace OptionScan

/-- Looks at the letter at a place of the argument before `next`. -/
def letter (known : Text) (args : List Text) (next place : Nat) : OptionScan :=
  let quiet := known.head? = some ':'
  let word := args.getD (next - 2) []
  let c := word.getD place '?'
  let after := word.drop (place + 1)
  let here := if after = [] then none else some (place + 1)
  match Letters.takesText? c known with
  | none =>
    if quiet then { text := some [c], next := next, place := some (place + 1) }
    else
      { next := next, place := some (place + 1),
        complaint := some ("Illegal option -".toList ++ [c]) }
  | some false => { found := c, text := some [], next := next, place := some (place + 1) }
  | some true =>
    if here.isSome then { found := c, text := some after, next := next }
    else match args[next - 1]? with
      | some text => { found := c, text := some text, next := next + 1 }
      | none =>
        if quiet then { found := ':', text := some [c], next := next }
        else
          { next := next, complaint := some ("No arg for -".toList ++ c :: " option".toList) }

/-- Looks at arguments, from a place or from the argument `next` on. -/
def scan (known : Text) (args : List Text) (next : Nat) (place : Option Nat) : OptionScan :=
  let word := args.getD (next - 2) []
  match place.filter fun n => 1 < next && n < word.length with
  | some n => letter known args next n
  | none =>
    match args[next - 1]? with
    | some ['-', '-'] => { next := next + 1, ended := true, keepsText := true }
    | some ('-' :: _ :: _) => letter known args (next + 1) 1
    | _ => { next := next, ended := true, keepsText := true }

end OptionScan

/-- `getopts`: the next option of some arguments, else of the positional parameters. -/
def runGetopts : Action := fun i args =>
  match args with
  | known :: name :: others =>
    let given := if others = [] then i.args else others
    let fresh := given.length + 1 < i.optionNext
    let s := OptionScan.scan known given (if fresh then 1 else i.optionNext)
      (if fresh then none else i.optionPlace)
    let told := (s.complaint.map i.tell).getD i
    let textName := "OPTARG".toList
    let texted := if s.keepsText then told
      else match s.text with
        | some text => told.assign textName text
        | none => told.unset textName
    let counted := texted.setValue Interpreter.optionNextName (Text.decimal s.next)
    let moved := { counted with optionNext := s.next, optionPlace := s.place }
    if moved.ending.isSome then moved
    else (moved.assign name [s.found]).ended (if s.ended then 1 else 0)
  | _ => i.fail "Usage: getopts optstring var [arg...]".toList

end Script

end CommandShell
