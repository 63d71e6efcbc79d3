import CommandShell.Script.Command.Basic

/-!
# `CommandShell.Script.Command.Aliases` — words that stand for texts

## Contents
- **Order.** `aliasPlace` is the place of a name in the list of all of them.
- **Commands.** `runAlias` and `runUnalias`.
-/

namespace CommandShell

namespace Script

/-! ## Order -/

/-- The number of places. -/
def aliasPlaces : Nat := 39

/-- A number for a name, by which names are put in order. -/
def nameSum (name : Text) : Nat :=
  name.foldl (fun n c => n + c.toNat) ((name.headD '\x00').toNat * 16)

/-- The place of a name; names of one place are in the order in which they came. -/
def aliasPlace (name : Text) : Nat := nameSum name % aliasPlaces

/-- An alias as a command would have to write it. -/
def aliasLine (a : Text × Text) : Text := a.1 ++ '=' :: quoted a.2 ++ ['\n']

/-! ## Commands -/

/-- The script with an alias. -/
def Interpreter.setAlias (i : Interpreter) (name text : Text) : Interpreter :=
  { i with aliases :=
      if (i.aliases.lookup name).isSome then
        i.aliases.map fun a => if a.1 = name then (name, text) else a
      else i.aliases ++ [(name, text)] }

/-- `alias`: makes a word stand for a text, or shows the text. -/
def runAlias : Action := fun i args =>
  if args = [] then
    (i.ended 0).print ((List.range aliasPlaces).flatMap fun n =>
      (i.aliases.filter fun a => aliasPlace a.1 = n).flatMap aliasLine)
  else
    (i.ended 0).forEach args fun i s =>
      let name := s.take 1 ++ (s.drop 1).takeWhile (· != '=')
      if name.length < s.length then i.setAlias name (s.drop (name.length + 1))
      else match i.aliases.lookup name with
        | some text => i.print (aliasLine (name, text))
        | none => (i.tell ("alias: ".toList ++ name ++ " not found".toList)).ended 1

/-- `unalias`: a word stands for itself again. -/
def runUnalias : Action := fun i args =>
  i.withLetters "a" args fun l =>
    if l.has 'a' then { i with aliases := [] }.ended 0
    else
      (i.ended 0).forEach l.rest fun i name =>
        if (i.aliases.lookup name).isSome then
          { i with aliases := i.aliases.filter fun a => a.1 != name }
        else (i.tell ("unalias: ".toList ++ name ++ " not found".toList)).ended 1

end Script

end CommandShell
