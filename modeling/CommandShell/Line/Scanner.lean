import CommandShell.Text.Basic

/-!
# `CommandShell.Line.Scanner` — splitting a line into words

A line is read character by character by a small machine. Quotes and backslashes decide whether a
space separates two words or belongs to one; they are not part of a word themselves.

## Contents
- **Machine.** `Scanner` holds the open quote, whether a backslash waits for its character, the
  word so far and the finished words; `Scanner.step` reads one character.
- **End of line.** `Scanner.finish` accepts a quote left open and keeps a lone final backslash.
- **Words.** `Line.words` runs the machine. `scan_append` says that scanning a line in two parts is
  scanning it whole, which every law about concatenated lines rests on.
-/

namespace CommandShell

/-- The quotation that a character of a line stands in. -/
inductive Quote where
  | bare
  | single
  | double
  deriving DecidableEq, Repr

/-- The state between two characters of a line. -/
structure Scanner where
  /-- The quotation that is open. -/
  quote : Quote := .bare
  /-- Whether a backslash is waiting for the character after it. -/
  escaping : Bool := false
  /-- The word being read. -/
  word : Text := []
  /-- The finished words, in order. -/
  words : List Text := []
  deriving DecidableEq, Repr

namespace Scanner

/-- Adds a character to the word being read. -/
def push (s : Scanner) (c : Char) : Scanner := { s with word := s.word ++ [c] }

/-- Ends the word being read; an empty one is dropped. -/
def close (s : Scanner) : Scanner :=
  if s.word = [] then s else { s with word := [], words := s.words ++ [s.word] }

/-- The characters that a backslash stands for inside double quotes: a backslash and the quote. -/
def escapableInDouble (c : Char) : Bool := c == '\\' || c == '"'

/-- Takes the character after a backslash. Inside double quotes a backslash before any other
    character is kept and stands for itself. -/
def resolve (s : Scanner) (c : Char) : Scanner :=
  let t := { s with escaping := false }
  if s.quote = .double ∧ escapableInDouble c = false then (t.push '\\').push c else t.push c

/-- Takes a character that no backslash stands before. -/
def read (s : Scanner) (c : Char) : Scanner :=
  match s.quote with
  | .bare =>
    if c = '\'' then { s with quote := .single }
    else if c = '"' then { s with quote := .double }
    else if c = '\\' then { s with escaping := true }
    else if c = ' ' then s.close
    else s.push c
  | .single => if c = '\'' then { s with quote := .bare } else s.push c
  | .double =>
    if c = '"' then { s with quote := .bare }
    else if c = '\\' then { s with escaping := true }
    else s.push c

/-- Reads one character. -/
def step (s : Scanner) (c : Char) : Scanner := if s.escaping then s.resolve c else s.read c

/-- The words at the end of the line: a quote left open is closed there, and a backslash with
    nothing after it stands for itself. -/
def finish (s : Scanner) : List Text :=
  (if s.escaping then s.push '\\' else s).close.words

/-- The state after some characters. -/
def scan (s : Scanner) (line : Text) : Scanner := line.foldl step s

@[simp] theorem scan_nil (s : Scanner) : s.scan [] = s := rfl

@[simp] theorem scan_cons (s : Scanner) (c : Char) (line : Text) :
    s.scan (c :: line) = (s.step c).scan line := rfl

/-- Scanning in two parts is scanning the whole. -/
theorem scan_append (s : Scanner) (a b : Text) : s.scan (a ++ b) = (s.scan a).scan b :=
  List.foldl_append

end Scanner

namespace Line

/-- The words of a line: split at the spaces that stand outside quotes and after no backslash, with
    the quoting taken away and empty words left out. -/
def words (line : Text) : List Text := (Scanner.scan {} line).finish

end Line

end CommandShell
