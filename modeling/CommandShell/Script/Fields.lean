import CommandShell.Script.Pattern

/-!
# `CommandShell.Script.Fields` — splitting into fields

What a word has become is cut into fields, at the characters that separate fields. Blanks among
those characters count once together, and not at all at the ends; every other one ends a field.

## Contents
- **Glyphs.** `Glyph`, a character or the mark of quotes with nothing between them.
- **Segments.** `Segment`, a stretch of glyphs that is split or not.
- **Splitting.** `Splitting` is the state, `Splitting.add` takes a glyph of a segment that is split,
  and `Fields.split` treats several segments. The number of fields may be limited; then the last one
  takes all that is left.
-/

namespace CommandShell

namespace Script

/-! ## Glyphs -/

/-- A character, or the mark of quotes with nothing between them. -/
inductive Glyph where
  | char (m : Mark)
  | quotes
  deriving DecidableEq, Repr

namespace Glyph

/-- The glyphs of a text. -/
def ofText (quoted : Bool) (s : Text) : List Glyph := (Mark.ofText quoted s).map .char

/-- The character of a glyph with its quoting. -/
def mark? : Glyph → Option Mark
  | .char m => some m
  | .quotes => none

/-- The characters of some glyphs with their quoting. -/
def marks (gs : List Glyph) : List Mark := gs.filterMap mark?

/-- The text of some glyphs. -/
def text (gs : List Glyph) : Text := Mark.toText (marks gs)

@[simp] theorem text_ofText (quoted : Bool) (s : Text) : text (ofText quoted s) = s := by
  induction s with
  | nil => rfl
  | cons c s ih => simp_all [text, marks, ofText, Mark.ofText, Mark.toText, mark?]

end Glyph

/-! ## Segments -/

/-- How a stretch of glyphs is split. -/
inductive Splits where
  | never
  /-- At the characters that separate fields. -/
  | atSeparators
  /-- At NULs only, which stand between positional parameters. -/
  | atNuls
  deriving DecidableEq, Repr

/-- A stretch of glyphs. -/
structure Segment where
  glyphs : List Glyph
  splits : Splits := .never
  deriving DecidableEq, Repr

/-- The text of some segments. -/
def Segment.text (ss : List Segment) : Text := Glyph.text (ss.flatMap Segment.glyphs)

/-! ## Splitting -/

/-- The state of splitting; fields and glyphs are kept last one first. -/
structure Splitting where
  fields : List (List Glyph) := []
  current : List Glyph := []
  /-- Whether the last glyph was a blank that ended a field. -/
  afterBlank : Bool := false
  /-- How many more fields there may be. -/
  left : Option Nat := none
  /-- How much of the current field is kept: blanks at the end of the last field are not. -/
  kept : Option Nat := none
  /-- Whether the last split segment was split at NULs only. -/
  atNuls : Bool := false
  deriving DecidableEq, Repr

/-- A blank that separates fields; a NUL stands between positional parameters. -/
def isBlankSeparator (c : Char) : Bool := c ∈ [' ', '\t', '\n', '\x00']

namespace Splitting

/-- Adds a glyph to the current field. -/
def push (s : Splitting) (g : Glyph) : Splitting := { s with current := g :: s.current }

/-- Ends the current field. -/
def finish (s : Splitting) : Splitting :=
  { s with fields := s.current.reverse :: s.fields, current := [] }

/-- Takes a glyph of a segment when the last field has been reached. -/
def addLast (s : Splitting) (g : Glyph) (separates blank : Bool) : Splitting :=
  if separates && blank then
    { s with kept := s.kept <|> some s.current.length }.push g
  else
    let kept := if separates && s.afterBlank then s.kept else none
    { s with kept := kept, afterBlank := false }.push g

/-- Takes a glyph that separates fields. `hard` says that blanks are like other separators. -/
def separate (s : Splitting) (g : Glyph) (blank hard : Bool) : Splitting :=
  let s := { s with afterBlank := if hard then s.afterBlank else blank }
  if s.current = [] ∧ s.afterBlank then { s with afterBlank := false }
  else match s.left with
    | some 1 => { s with left := some 0, kept := some s.current.length }.push g
    | left => { s with left := left.map (· - 1) }.finish

/-- Takes a glyph of a segment that is split. -/
def add (ifs : Text) (hard : Bool) (s : Splitting) (g : Glyph) : Splitting :=
  match g with
  | .quotes => s.push g
  | .char m =>
    let separates := m.char = '\x00' || ifs.contains m.char
    let blank := separates && isBlankSeparator m.char
    if s.left = some 0 then s.addLast g separates blank
    else if s.afterBlank then
      if blank then s
      else if separates then { s with afterBlank := false }
      else { s with afterBlank := false }.push g
    else if separates then s.separate g blank hard
    else s.push g

/-- Takes a segment. -/
def addSegment (ifs : Text) (s : Splitting) (segment : Segment) : Splitting :=
  match segment.splits with
  | .never => { s with current := segment.glyphs.reverse ++ s.current }
  | .atSeparators =>
    segment.glyphs.foldl (add ifs s.atNuls) { s with afterBlank := false, atNuls := false }
  | .atNuls => segment.glyphs.foldl (add [] true) { s with afterBlank := false, atNuls := true }

/-- The fields after the last segment. -/
def toList (s : Splitting) : List (List Glyph) :=
  let last := s.current.reverse
  let last := if s.atNuls then last else last.take (s.kept.getD last.length)
  s.fields.reverse ++ if last = [] ∧ s.atNuls = false then [] else [last]

end Splitting

/-- The fields of some segments, at most so many of them. -/
def Segment.fields (ifs : Text) (limit : Option Nat) (ss : List Segment) : List (List Glyph) :=
  (ss.foldl (Splitting.addSegment ifs) { left := limit }).toList

example : (Segment.fields [' ', ':'] none
    [⟨Glyph.ofText false " a : b::c ".toList, .atSeparators⟩]).map Glyph.text =
    ["a".toList, "b".toList, [], "c".toList] := by decide +kernel

example : (Segment.fields [' '] (some 2)
    [⟨Glyph.ofText false " a  b c ".toList, .atSeparators⟩]).map Glyph.text =
    ["a".toList, "b c".toList] := by decide +kernel

end Script

end CommandShell
