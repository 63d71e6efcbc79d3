import CommandShell.Script.Interpreter

/-!
# `CommandShell.Script.Command.Basic` — what the commands of scripts have in common

A script carries out many commands itself. Such a command acts on the script with its arguments,
which begin with options.

## Contents
- **Actions.** `Action`, what a command does.
- **Options.** `Letters.read` takes the options from the front of arguments;
  `Interpreter.withLetters` goes on with them, or fails.
- **Numbers.** `Interpreter.withNumber` goes on with the number that an argument writes, or fails.
- **Quoting.** `quoted`, a text as a script would have to write it.
-/

namespace CommandShell

namespace Script

/-- What a command does with the arguments after its name. -/
abbrev Action := Interpreter → List Text → Interpreter

/-! ## Options -/

/-- The options of a command, each with the text that it takes, and the arguments after them. -/
structure Letters where
  given : List (Char × Text) := []
  rest : List Text := []
  deriving DecidableEq, Repr

namespace Letters

/-- Whether an option is given. -/
def has (l : Letters) (letter : Char) : Bool := l.given.any fun g => g.1 == letter

/-- The text of an option; the last one counts. -/
def text? (l : Letters) (letter : Char) : Option Text := l.given.reverse.lookup letter

/-- Whether a letter is an option, and takes a text: then a colon follows it. -/
def takesText? (letter : Char) : Text → Option Bool
  | [] => none
  | c :: ':' :: rest => if c = letter then some true else takesText? letter rest
  | c :: rest => if c = letter then some false else takesText? letter rest

/-- Reads the letters of one argument; a text that is not in it is the next argument. -/
def readLetters (known : Text) : Text → List Text → Except Text Letters
  | [], rest => .ok { rest := rest }
  | c :: more, rest =>
    match takesText? c known with
    | none => .error ("Illegal option -".toList ++ [c])
    | some false => do
      let l ← readLetters known more rest
      return { l with given := (c, []) :: l.given }
    | some true =>
      if more ≠ [] then .ok ⟨[(c, more)], rest⟩
      else match rest with
        | [] => .error ("No arg for -".toList ++ c :: " option".toList)
        | text :: rest => .ok ⟨[(c, text)], rest⟩

/-- Reads options from at most so many arguments. Two minus signs end them. -/
def readFrom (known : Text) : Nat → List Text → Except Text Letters
  | 0, args => .ok { rest := args }
  | n + 1, args =>
    match args with
    | ['-', '-'] :: rest => .ok { rest := rest }
    | ('-' :: c :: more) :: rest => do
      let first ← readLetters known (c :: more) rest
      let others ← readFrom known n first.rest
      return ⟨first.given ++ others.given, others.rest⟩
    | _ => .ok { rest := args }

/-- Reads options, of which these letters are known. -/
def read (known : Text) (args : List Text) : Except Text Letters :=
  readFrom known args.length args

example : read "p:r".toList ["-rp".toList, "x".toList, "-r".toList, "--".toList, "-p".toList] =
    .ok ⟨[('r', []), ('p', "x".toList), ('r', [])], ["-p".toList]⟩ := by rfl

end Letters

namespace Interpreter

/-- Goes on with the options of a command, or fails. -/
def withLetters (i : Interpreter) (known : String) (args : List Text)
    (action : Letters → Interpreter) : Interpreter :=
  match Letters.read known.toList args with
  | .ok l => action l
  | .error complaint => i.fail complaint

/-! ## Numbers -/

/-- The largest number that an argument may write. -/
def largestArgument : Nat := 2147483647

/-- Fails because of an argument that writes no number. -/
def failNumber (i : Interpreter) (s : Text) : Interpreter :=
  i.fail ("Illegal number: ".toList ++ s)

/-- Goes on with the number that an argument writes, or fails. -/
def withNumber (i : Interpreter) (s : Text) (action : Nat → Interpreter) : Interpreter :=
  match (natural? s).filter (· ≤ largestArgument) with
  | some n => action n
  | none => i.failNumber s

/-- Goes on with each of some arguments, until the script ends. -/
def forEach (i : Interpreter) (args : List Text) (action : Interpreter → Text → Interpreter) :
    Interpreter :=
  args.foldl (fun i a => if i.ending.isSome then i else action i a) i

end Interpreter

/-! ## Quoting -/

/-- The pieces of a text in quotes, in at most so many steps: single quotes around all but single
    quotes, and double quotes around those. -/
def quotedFrom : Nat → Text → Text
  | 0, _ => []
  | n + 1, s =>
    let plain := s.takeWhile (· != '\'')
    let rest := s.drop plain.length
    let quotes := rest.takeWhile (· == '\'')
    let after := rest.drop quotes.length
    '\'' :: plain ++ ['\''] ++ (if quotes = [] then [] else '"' :: quotes ++ ['"']) ++
      if after = [] then [] else quotedFrom n after

/-- A text as a script would have to write it. -/
def quoted (s : Text) : Text := quotedFrom (s.length + 1) s

example : quoted "it's".toList = "'it'\"'\"'s'".toList := by decide

end Script

end CommandShell
