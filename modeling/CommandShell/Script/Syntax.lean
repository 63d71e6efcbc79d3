import CommandShell.Text.Basic

/-!
# `CommandShell.Script.Syntax` — command scripts

The language of the command interpreter: words with parameters, simple commands with redirections,
and the statements that are made of them. A word may hold a whole script, whose output it stands
for, so that words and statements are defined together.

A script is read byte by byte, and a byte is looked at as the character of its number. So a text in
this folder holds characters up to U+00FF only; `Script.ofBytes` and `Script.toBytes` go both ways.

## Contents
- **Bytes.** The two conversions.
- **Names.** `Script.isName`, what a variable may be called.
- **Redirections.** `Redirect`, over any kind of target.
- **Words and statements.** `Part`, `Use` and `Statement`; a list of statements is a chain of pairs,
  so that a script is run by recursion on it. `Word` is a list of parts.
-/

namespace CommandShell

namespace Script

/-! ## Bytes -/

/-- Bytes as the characters of their numbers. -/
def ofBytes (bs : Bytes) : Text := bs.map fun b => Char.ofNat b.toNat

/-- Characters up to U+00FF as bytes. -/
def toBytes (s : Text) : Bytes := s.map fun c => UInt8.ofNat c.toNat

/-! ## Names -/

/-- A letter or an underscore. -/
def startsName (c : Char) : Bool := c.isAlpha || c == '_'

/-- A letter, a digit or an underscore. -/
def inName (c : Char) : Bool := c.isAlphanum || c == '_'

/-- Whether a text may be the name of a variable. -/
def isName (s : Text) : Bool := s.head?.any startsName && s.all inName

/-- The number that some decimal digits write. -/
def number (digits : Text) : Nat := digits.foldl (fun n c => n * 10 + (c.toNat - '0'.toNat)) 0

/-- The number that a text of decimal digits writes. -/
def natural? (s : Text) : Option Nat :=
  if s ≠ [] ∧ s.all Char.isDigit then some (number s) else none

/-! ## Redirections -/

/-- What a redirection does with a descriptor. -/
inductive RedirectKind where
  | read
  | write
  /-- Writing over a file even where an option rules that out. -/
  | overwrite
  | append
  /-- Reading and writing. -/
  | update
  | duplicate
  /-- Reading what stands in the script itself. -/
  | here
  deriving DecidableEq, Repr

/-- A redirection of a descriptor. -/
structure Redirect (Target : Type) where
  descriptor : Nat
  kind : RedirectKind
  target : Target

/-! ## Words and statements -/

mutual

/-- A part of a word. -/
inductive Part where
  | literal (text : Text) (quoted : Bool)
  | parameter (name : Text) (use : Use) (quoted : Bool)
  /-- The output of a script. -/
  | output (script : Statement) (quoted : Bool)
  /-- The value of an arithmetic expression. -/
  | number (expression : List Part) (quoted : Bool)

/-- What a parameter is replaced by. With `orEmpty`, an empty value counts as unset. -/
inductive Use where
  | value
  /-- The number of its characters. -/
  | length
  /-- A word, if it is unset. -/
  | fallback (orEmpty : Bool) (word : List Part)
  /-- A word, which becomes its value too, if it is unset. -/
  | assign (orEmpty : Bool) (word : List Part)
  /-- Nothing, and the script ends with a word as complaint, if it is unset. -/
  | demand (orEmpty : Bool) (word : List Part)
  /-- A word, if it is set. -/
  | replace (orEmpty : Bool) (word : List Part)
  /-- Its value without the part at the front that a pattern matches. -/
  | dropFront (longest : Bool) (pattern : List Part)
  /-- Its value without the part at the back that a pattern matches. -/
  | dropBack (longest : Bool) (pattern : List Part)
  /-- Nothing: no such use is known. -/
  | unknown

/-- A statement of a script. -/
inductive Statement where
  | nothing
  /-- A command, with the number of its line. -/
  | simple (line : Nat) (assignments : List (Text × List Part)) (words : List (List Part))
      (redirects : List (Redirect (List Part)))
  /-- One after the other. -/
  | sequence (a b : Statement)
  /-- The second only if the first succeeds. -/
  | both (a b : Statement)
  /-- The second only if the first fails. -/
  | either (a b : Statement)
  /-- Succeeds if the statement fails. -/
  | opposite (a : Statement)
  /-- The second if the first succeeds, else the third. -/
  | branch (test yes no : Statement)
  /-- The second as long as the first succeeds or, with `untilDone`, as long as it fails. -/
  | loop (untilDone : Bool) (test body : Statement)
  /-- Once for each field of some words; without words, for each positional parameter. -/
  | each (line : Nat) (name : Text) (items : Option (List (List Part))) (body : Statement)
  /-- The clauses for a subject; one of them is carried out. -/
  | choice (line : Nat) (subject : List Part) (clauses : Statement)
  /-- A statement for the subjects that one of some patterns matches, before other clauses. -/
  | clause (patterns : List (List Part)) (body others : Statement)
  /-- In a state of its own. -/
  | inside (line : Nat) (redirects : List (Redirect (List Part))) (body : Statement)
  /-- In a state of its own, while the script goes on. -/
  | background (line : Nat) (body : Statement)
  /-- The second reads what the first writes. -/
  | pipe (a b : Statement)
  /-- Remembered under a name. -/
  | define (name : Text) (body : Statement)
  /-- With redirections that hold for all of it. -/
  | redirected (line : Nat) (redirects : List (Redirect (List Part))) (body : Statement)

end

instance : Inhabited Statement := ⟨.nothing⟩

/-- A word before its parameters are replaced. -/
abbrev Word := List Part

/-- The text of a word that is written without quotes and parameters, which alone can be a keyword
    or a name. -/
def plain? : Word → Option Text
  | [] => some []
  | .literal s false :: rest => (plain? rest).map (s ++ ·)
  | _ => none

/-- A part in front of others. Two literals that are quoted alike become one. -/
def Part.before (p : Part) (w : Word) : Word :=
  match p, w with
  | .literal s q, .literal t r :: rest =>
    if q = r then .literal (s ++ t) q :: rest else .literal s q :: w
  | p, w => p :: w

/-- A word in front of another one. -/
def Word.followedBy (v w : Word) : Word := v.foldr Part.before w

/-- The name and value of an assignment, if a word is one: a name and an equals sign, neither of
    them quoted, at its start. -/
def assignment? (w : Word) : Option (Text × Word) :=
  match w with
  | .literal s false :: rest =>
    let name := s.takeWhile (· != '=')
    if isName name ∧ name.length < s.length then
      let value := s.drop (name.length + 1)
      some (name, if value = [] then rest else .literal value false :: rest)
    else none
  | _ => none

/-- Whether a statement is empty. -/
def Statement.isNothing : Statement → Bool
  | .nothing => true
  | _ => false

/-- A statement and what comes after it. -/
def Statement.followedBy (s : Statement) : Statement → Statement
  | .nothing => s
  | t => .sequence s t

end Script

end CommandShell
