import CommandShell.Text.Basic

/-!
# `CommandShell.Script.Options` — the options of the command interpreter

Options are letters after a minus sign, which turns them on, or after a plus sign, which turns them
off. The letter `o` stands for the name in the next argument. An argument without such a sign ends
the options, and so does a minus sign alone or doubled.

## Contents
- **Letters.** `Options` is the list of letters that are on; `Options.letterOf?` finds the letter of
  a name.
- **Lists.** `Options.table` and `Options.commands` show the names with their states.
- **Reading.** `Options.read` splits arguments into options and what follows them, and refuses what
  is no option.
-/

namespace CommandShell

namespace Script

/-- The letters of the options that are on. -/
abbrev Options := Text

namespace Options

/-- Whether an option is on. -/
def has (o : Options) (letter : Char) : Bool := o.contains letter

/-- Turns an option on or off. -/
def put (o : Options) (letter : Char) (on : Bool) : Options :=
  let others := o.filter (· != letter)
  if on then letter :: others else others

/-- The letters of the options. -/
def letters : Text := "efIimnsxvVECabup".toList

/-- The names of the options. Two of them have no letter; they go by digits, which are no letters
    either. -/
def names : List (Text × Char) :=
  [("errexit".toList, 'e'), ("noglob".toList, 'f'), ("ignoreeof".toList, 'I'),
   ("interactive".toList, 'i'), ("monitor".toList, 'm'), ("noexec".toList, 'n'),
   ("stdin".toList, 's'), ("xtrace".toList, 'x'), ("verbose".toList, 'v'), ("vi".toList, 'V'),
   ("emacs".toList, 'E'), ("noclobber".toList, 'C'), ("allexport".toList, 'a'),
   ("notify".toList, 'b'), ("nounset".toList, 'u'), ("privileged".toList, 'p'),
   ("nolog".toList, '0'), ("debug".toList, '1')]

/-- The letter of an option's name. -/
def letterOf? (name : Text) : Option Char := names.lookup name

/-! ## Lists -/

/-- All names, with their states beside them. -/
def table (o : Options) : Text :=
  "Current option settings\n".toList ++ names.flatMap fun n =>
    let state := if o.has n.2 then "on" else "off"
    n.1 ++ List.replicate (16 - n.1.length) ' ' ++ state.toList ++ ['\n']

/-- The commands that would bring the states about. -/
def commands (o : Options) : Text :=
  names.flatMap fun n =>
    "set ".toList ++ [if o.has n.2 then '-' else '+'] ++ "o ".toList ++ n.1 ++ ['\n']

/-! ## Reading -/

/-- What some arguments say. -/
structure Reading where
  options : Options
  /-- Whether the letter `c` was among them, which asks for a script instead of a file. -/
  isCommand : Bool := false
  /-- The arguments after the options. -/
  rest : List Text := []
  /-- Whether a doubled minus sign ended the options. -/
  isMarked : Bool := false
  /-- The list of all options that is asked for: without a name, `-o` asks for the table, and `+o`
      for the commands. -/
  shown : Text := []
  deriving DecidableEq, Repr

/-- Reads the letters of one argument; the letters `o` in it are counted, as each of them takes an
    argument. The letters `c` and `l` are for the interpreter's own arguments alone. -/
def readLetters (atStart on : Bool) (r : Reading) : Text → Except Text (Reading × Nat)
  | [] => .ok (r, 0)
  | 'o' :: more => do
    let (r, n) ← readLetters atStart on r more
    return (r, n + 1)
  | letter :: more =>
    if atStart && letter == 'c' then readLetters atStart on { r with isCommand := true } more
    else if atStart && letter == 'l' then readLetters atStart on r more
    else if letters.contains letter then
      readLetters atStart on { r with options := r.options.put letter on } more
    else .error ("Illegal option -".toList ++ [letter])

/-- Reads arguments; the first `named` of them are names of options, to be turned on or off. -/
def readFrom (atStart : Bool) : (named : Nat) → (on : Bool) → Reading → List Text →
    Except Text Reading
  | 0, _, r, [] => .ok r
  | _ + 1, on, r, [] =>
    .ok { r with shown := if on then table r.options else commands r.options }
  | named + 1, on, r, a :: rest =>
    match letterOf? a with
    | some letter => readFrom atStart named on { r with options := r.options.put letter on } rest
    | none => .error ("Illegal option -o ".toList ++ a)
  | 0, _, r, a :: rest =>
    match a with
    | ['-'] =>
      let quiet := if atStart then r.options else (r.options.put 'x' false).put 'v' false
      .ok { r with options := quiet, rest := rest }
    | ['-', '-'] => .ok { r with rest := rest, isMarked := true }
    | '-' :: more => do
      let (r, named) ← readLetters atStart true r more
      readFrom atStart named true r rest
    | '+' :: more => do
      let (r, named) ← readLetters atStart false r more
      readFrom atStart named false r rest
    | _ => .ok { r with rest := a :: rest }

/-- Reads arguments in front of which some options are on already. -/
def read (atStart : Bool) (o : Options) (args : List Text) : Except Text Reading :=
  readFrom atStart 0 true { options := o } args

example : read true [] ["-ex".toList, "-o".toList, "noexec".toList, "a".toList, "-b".toList] =
    .ok { options := "nxe".toList, rest := ["a".toList, "-b".toList] } := by rfl

example : read true [] ["--help".toList] = .error "Illegal option --".toList := by rfl

end Options

end Script

end CommandShell
