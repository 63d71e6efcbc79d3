import CommandShell.Script.Syntax

/-!
# `CommandShell.Script.Source` — the text of a script, as it is read

A script is read from its front. What has been read is gone; the line is counted, and one token may
be given back.

## Contents
- **Complaints.** `SyntaxError`, a line and what was wrong there.
- **Tokens.** `Token`, a word or an operator.
- **Sources.** `Source`, and `Reader`, the monad of functions that read from one.
- **Characters.** `Reader.next?` takes a character, passing over line continuations.
- **Here-documents.** `Source.cutHere` takes the lines of a here-document out of what follows the
  line being read.
-/

namespace CommandShell

namespace Script

/-! ## Complaints -/

/-- A complaint about a script. -/
structure SyntaxError where
  line : Nat
  complaint : Text
  deriving DecidableEq, Repr

/-! ## Tokens -/

/-- A token of a script. -/
inductive Token where
  | word (w : Word)
  | newline
  | semicolon
  | doubleSemicolon
  | background
  | and
  | or
  | pipe
  | opening
  | closing
  /-- A redirection of a descriptor; its target follows. For a here-document, whether tabs at the
      start of its lines are dropped. -/
  | redirect (descriptor : Nat) (kind : RedirectKind) (dropsTabs : Bool)
  | finish

/-! ## Sources -/

/-- What is still to be read. -/
structure Source where
  rest : Text
  line : Nat := 1
  /-- A token that was given back. -/
  given : Option Token := none
  /-- The number of lines that were taken out after the line being read. -/
  skipped : Nat := 0
  /-- Words that stand for a text where a command begins. -/
  aliases : List (Text × Text) := []
  /-- The ones whose text is being read, with the length of what follows that text. -/
  busy : List (Text × Nat) := []
  /-- The length of what follows a text that ends with a blank: after it, another word may stand for
      a text. -/
  extended : Option Nat := none

/-- Reads from a source. -/
abbrev Reader := StateT Source (Except SyntaxError)

namespace Reader

/-- Complains about the line being read. -/
def fail {α : Type} (complaint : Text) : Reader α := do
  throw ⟨(← get).line, complaint⟩

/-- The source after a line break. -/
def breakLine (s : Source) (rest : Text) : Source :=
  { s with rest := rest, line := s.line + 1 + s.skipped, skipped := 0 }

/-! ## Characters -/

/-- The source without the line continuations at its front: each is a backslash before a line
    break. -/
def joinLines (s : Source) : Text → Source
  | '\\' :: '\n' :: rest => joinLines (breakLine s rest) rest
  | _ => s

/-- The character at the front, which stays there. -/
def peek? : Reader (Option Char) := do
  modify fun s => joinLines s s.rest
  return (← get).rest.head?

/-- Takes so many characters, none of which is a line break. -/
def skip (n : Nat) : Reader Unit := modify fun s => { s with rest := s.rest.drop n }

/-- Takes a character as it is written. -/
def nextRaw? : Reader (Option Char) := do
  let s ← get
  match s.rest with
  | [] => return none
  | c :: rest =>
    set (if c = '\n' then breakLine s rest else { s with rest := rest })
    return some c

/-- Takes a character. -/
def next? : Reader (Option Char) := do
  let _ ← peek?
  nextRaw?

/-- Takes the characters of a class from the front. -/
def takeWhile (p : Char → Bool) : Reader Text := do
  let taken := (← get).rest.takeWhile p
  skip taken.length
  return taken

/-- Gives a token back. -/
def giveBack (t : Token) : Reader Unit := modify fun s => { s with given := some t }

end Reader

/-! ## Here-documents -/

namespace Source

/-- The lines up to one that is the delimiter, their number with that line, and what follows it. -/
def hereLines (delimiter : Text) (dropsTabs : Bool) : Nat → Text → Text × Nat × Text
  | 0, rest => ([], 0, rest)
  | _ + 1, [] => ([], 0, [])
  | n + 1, rest =>
    let written := rest.takeWhile (· != '\n')
    let after := rest.drop (written.length + 1)
    let line := if dropsTabs then written.dropWhile (· == '\t') else written
    if line = delimiter then ([], 1, after)
    else
      let ended := if written.length < rest.length then ['\n'] else []
      let (more, count, last) := hereLines delimiter dropsTabs n after
      (line ++ ended ++ more, count + 1, last)

/-- Takes the lines of a here-document out of what follows the line being read. -/
def cutHere (s : Source) (delimiter : Text) (dropsTabs : Bool) : Text × Source :=
  let line := s.rest.takeWhile (· != '\n')
  let below := s.rest.drop (line.length + 1)
  let (body, count, after) := hereLines delimiter dropsTabs (below.length + 1) below
  (body, { s with
    rest := if line.length < s.rest.length then line ++ '\n' :: after else line
    skipped := s.skipped + count })

end Source

end Script

end CommandShell
