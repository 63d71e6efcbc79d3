import CommandShell.Script.Command.Basic
import CommandShell.Script.Expansion

/-!
# `CommandShell.Script.Command.Read` — reading a line into variables

## Contents
- **Lines.** `InputLine` is what was read up to the end of a line; `InputLine.take` takes it from
  the front of a text.
- **Command.** `runRead`.
-/

namespace CommandShell

namespace Script

/-! ## Lines -/

/-- A line that was read. -/
structure InputLine where
  /-- Its characters; a quoted one separates no fields. -/
  segments : List Segment := []
  /-- How many characters were taken. -/
  taken : Nat := 0
  /-- Whether the input ended before the line did. -/
  cut : Bool := false

namespace InputLine

/-- A line with a segment in front of it that took so many characters. -/
def after (l : InputLine) (s : Segment) (taken : Nat) : InputLine :=
  { l with segments := s :: l.segments, taken := taken + l.taken }

/-- Takes a line. Unless backslashes are nothing special, one of them quotes the character after it,
    and joins lines. NULs are passed over. -/
def take (plain : Bool) : (current : Text) → Text → InputLine
  | current, [] =>
    { segments := [⟨Glyph.ofText false current.reverse, .atSeparators⟩], cut := true }
  | current, '\x00' :: rest =>
    let l := take plain current rest
    { l with taken := l.taken + 1 }
  | current, '\n' :: _ =>
    { segments := [⟨Glyph.ofText false current.reverse, .atSeparators⟩], taken := 1 }
  | current, '\\' :: c :: rest =>
    if plain then
      let l := take plain ('\\' :: current) (c :: rest)
      { l with taken := l.taken + 1 }
    else
      let first : Segment := ⟨Glyph.ofText false current.reverse, .atSeparators⟩
      let l := take plain [] rest
      let l := if c = '\n' then l else l.after ⟨Glyph.ofText true [c], .never⟩ 0
      l.after first 2
  | current, c :: rest =>
    if c = '\\' ∧ plain = false then
      { segments := [⟨Glyph.ofText false current.reverse, .atSeparators⟩], taken := 1, cut := true }
    else
      let l := take plain (c :: current) rest
      { l with taken := l.taken + 1 }

end InputLine

/-! ## Command -/

namespace Interpreter

/-- Gives fields to names in order; names without a field get nothing. -/
def assignFields (i : Interpreter) : List Text → List Text → Interpreter
  | [], _ => i
  | name :: names, fields =>
    let j := i.assign name (fields.headD [])
    if j.ending.isSome then j else assignFields j names (fields.drop 1)

end Interpreter

/-- `read`: a line of the standard input; it fails if the input ends before the line does. The last
    name gets all fields that are left. -/
def runRead : Action := fun i args =>
  i.withLetters "p:r" args fun l =>
    if l.rest = [] then i.fail "arg count".toList
    else
      let prompted := match l.text? 'p' with
        | some prompt =>
          if i.streams.channel? 0 = some Channel.keyboard then (i.writeTo 2 prompt).1 else i
        | none => i
      let line := InputLine.take (l.has 'r') [] (prompted.unread 0)
      let fields := Segment.fields i.separators (some l.rest.length) line.segments
      let read := prompted.advance 0 line.taken
      let assigned := read.assignFields l.rest (fields.map Glyph.text)
      if assigned.ending.isSome then assigned else assigned.ended (if line.cut then 1 else 0)

end Script

end CommandShell
