import CommandShell.Line.Scanner
import CommandShell.Text.Blank
import CommandShell.Text.Utf8

/-!
# `CommandShell.Line.Command` — commands and their redirections

The words of a line become a command: a name, its arguments, and the files that its two output
streams go to. Redirections may stand anywhere among the words.

## Contents
- **Redirections.** `Redirection.operator?` knows the six operators; `Line.pieces` cuts words into
  plain words and redirections. An operator takes the word after it as its target, whatever that
  word is, and an operator with no word after it is a plain word.
- **Commands.** `Command`, and `Command.ofWords`, which adds piece after piece. The last redirection
  of a stream wins, and the last one of either stream decides whether files are appended to.
- **Lines.** `Command.ofLine` trims a line, splits it and reads the command.
-/

namespace CommandShell

/-- One of a command's two output streams. -/
inductive Stream where
  | out
  | err
  deriving DecidableEq, Repr

/-- A redirection: a stream, whether the file is appended to, and the file. -/
structure Redirection where
  stream : Stream
  append : Bool
  target : Path
  deriving DecidableEq, Repr

/-- The stream and the mode that an operator word stands for. -/
def Redirection.operator? (word : Text) : Option (Stream × Bool) :=
  if word = ['>'] ∨ word = ['1', '>'] then some (.out, false)
  else if word = ['>', '>'] ∨ word = ['1', '>', '>'] then some (.out, true)
  else if word = ['2', '>'] then some (.err, false)
  else if word = ['2', '>', '>'] then some (.err, true)
  else none

/-- A part of a line: a plain word, or an operator with its target. -/
inductive Piece where
  | word (w : Text)
  | redirection (r : Redirection)
  deriving DecidableEq, Repr

/-- What a command line asks for. `append` holds for whichever of the two files are given. -/
structure Command where
  name : Text := []
  args : List Text := []
  stdout : Option Path := none
  stderr : Option Path := none
  append : Bool := false
  deriving DecidableEq, Repr

namespace Line

/-- The pieces of a list of words, from left to right. -/
def pieces : List Text → List Piece
  | [] => []
  | [w] => [.word w]
  | w :: t :: rest =>
    match Redirection.operator? w with
    | some (stream, append) => .redirection ⟨stream, append, Utf8.encode t⟩ :: pieces rest
    | none => .word w :: pieces (t :: rest)

end Line

namespace Command

/-- A command without a name asks for nothing. -/
def isEmpty (c : Command) : Bool := c.name.isEmpty

/-- Adds a word: the name as long as there is none, else an argument. -/
def addWord (c : Command) (w : Text) : Command :=
  if c.name = [] then { c with name := w } else { c with args := c.args ++ [w] }

/-- Adds a redirection, which replaces an earlier one of its stream. -/
def addRedirection (c : Command) (r : Redirection) : Command :=
  match r.stream with
  | .out => { c with stdout := some r.target, append := r.append }
  | .err => { c with stderr := some r.target, append := r.append }

/-- Adds a piece. -/
def add (c : Command) : Piece → Command
  | .word w => c.addWord w
  | .redirection r => c.addRedirection r

/-- The command that some pieces make. -/
def ofPieces (ps : List Piece) : Command := ps.foldl add {}

/-- The command that a list of words makes. -/
def ofWords (ws : List Text) : Command := ofPieces (Line.pieces ws)

/-- The command that a typed line makes: blanks at its ends do not count. -/
def ofLine (line : Text) : Command := ofWords (Line.words (Text.trim line))

end Command

end CommandShell
