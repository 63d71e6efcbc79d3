import CommandShell.Text.Utf8

/-!
# `CommandShell.Builtin.Basic` — the commands of the shell itself

The five commands that the shell carries out without starting a program.

## Contents
- **Names.** `Builtin.name` and `Builtin.ofName?`, inverse to each other (`ofName?_eq_some_iff`).
- **Home.** `Builtin.homeTarget`, the directory that an argument of `cd` stands for.
-/

namespace CommandShell

/-- A command of the shell itself. -/
inductive Builtin where
  | echo
  | exit
  | type
  | pwd
  | cd
  deriving DecidableEq, Repr

namespace Builtin

/-- Every builtin. -/
def all : List Builtin := [.echo, .exit, .type, .pwd, .cd]

/-- The word that calls a builtin. -/
def name : Builtin → Text
  | .echo => ['e', 'c', 'h', 'o']
  | .exit => ['e', 'x', 'i', 't']
  | .type => ['t', 'y', 'p', 'e']
  | .pwd => ['p', 'w', 'd']
  | .cd => ['c', 'd']

/-- The builtin that a word calls. -/
def ofName? (word : Text) : Option Builtin := all.find? fun b => b.name == word

/-- A word calls the builtin of that name and no other. -/
theorem ofName?_eq_some_iff {word : Text} {b : Builtin} :
    ofName? word = some b ↔ b.name = word := by
  constructor
  · intro h
    simpa using List.find?_some h
  · rintro rfl
    cases b <;> decide

/-- The names of all builtins. -/
def names : List Text := all.map name

/-- The directory that an argument of `cd` stands for. Nothing at all means the home directory, and
    so does a tilde at the start, alone or before a slash; without a home that is text, a tilde is
    an ordinary character. That is what `shellexpand` documents of a tilde. -/
def homeTarget (home : Option Path) (arg : Text) : Path :=
  let written := if arg = [] then ['~'] else arg
  match written with
  | '~' :: rest =>
    if rest = [] ∨ rest.head? = some '/' then
      match home.bind Utf8.decode? with
      | some h => Utf8.encode (h ++ rest)
      | none => Utf8.encode written
    else Utf8.encode written
  | _ => Utf8.encode written

end Builtin

end CommandShell
