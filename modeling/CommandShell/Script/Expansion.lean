import CommandShell.Script.Arithmetic
import CommandShell.Script.Fields
import CommandShell.Script.Interpreter
import CommandShell.Script.PathPattern

/-!
# `CommandShell.Script.Expansion` — from words to fields

Before a command is carried out, its words are turned into fields: parameters are replaced by their
values, scripts by their output and expressions by their values; then what is not quoted is split,
and patterns are replaced by the paths that match them. On the way variables may change, and the
script may end.

## Contents
- **Parameters.** `Interpreter.parameter?`, the value of a parameter.
- **Homes.** `Interpreter.homes` replaces a tilde by the path of a home directory.
- **Words.** `Part.expand`, `Use.expand` and `Word.expand` make segments of words. `Outputs` runs a
  script and gives its output.
- **Results.** `Interpreter.fields` expands words to fields, `Interpreter.text` a word to one text,
  and `Interpreter.pattern` a word to a pattern.
-/

namespace CommandShell

namespace Script

/-- Runs a script inside a word, and gives its output. -/
abbrev Outputs := Statement → Interpreter → Interpreter × Text

/-! ## Parameters -/

namespace Interpreter

/-- The name of the variable whose characters separate fields. -/
def separatorsName : Text := "IFS".toList

/-- The characters that separate fields. -/
def separators (i : Interpreter) : Text := (i.value? separatorsName).getD " \t\n".toList

/-- What stands between the positional parameters when they are one text. -/
def joint (i : Interpreter) : Text :=
  match i.value? separatorsName with
  | some s => s.take 1
  | none => [' ']

/-- The value of a parameter. -/
def parameter? (i : Interpreter) (name : Text) : Option Text :=
  if name = ['#'] then some (Text.decimal i.args.length)
  else if name = ['?'] then some (Text.decimal i.status)
  else if name = ['$'] then some (Text.decimal i.process)
  else if name = ['!'] then i.jobs.head?.map fun j => Text.decimal j.1
  else if name = ['-'] then some (Options.letters.reverse.filter i.has)
  else if name = ['@'] ∨ name = ['*'] then some (List.intercalate i.joint i.args)
  else if name ≠ [] ∧ name.all Char.isDigit then
    if number name = 0 then some i.self else i.args[number name - 1]?
  else i.value? name

/-! ## Homes -/

/-- The path of a user's home directory; no name means the script's own user. -/
def home? (i : Interpreter) (user : Text) : Option Text :=
  if user = [] then i.value? Environment.homeName
  else if user = "root".toList then some "/root".toList
  else none

/-- The glyphs of a piece that may begin with a tilde. The piece is cut off by what follows it,
    unless it goes on. -/
def homePiece (i : Interpreter) (goesOn : Bool) (s : Text) : List Glyph :=
  match s with
  | '~' :: rest =>
    let user := rest.takeWhile (· != '/')
    let after := rest.drop user.length
    match if after = [] ∧ goesOn then none else i.home? user with
    | some dir => Glyph.ofText true dir ++ Glyph.ofText false after
    | none => Glyph.ofText false s
  | s => Glyph.ofText false s

/-- The glyphs of pieces; the first one may begin with a tilde only if it stands at the start. -/
def homePieces (i : Interpreter) (goesOn : Bool) : (atStart : Bool) → List Text → List Glyph
  | _, [] => []
  | atStart, [s] => if atStart then i.homePiece goesOn s else Glyph.ofText false s
  | atStart, s :: rest =>
    (if atStart then i.homePiece false s else Glyph.ofText false s) ++
      Glyph.ofText false [':'] ++ homePieces i goesOn true rest

end Interpreter

/-- Where a tilde stands for a home directory. -/
inductive Tildes where
  | nowhere
  | atStart
  /-- At the start, and after every colon. -/
  | inList
  deriving DecidableEq, Repr

/-- How a word is expanded. -/
structure Manner where
  /-- Whether it makes fields. -/
  splits : Bool
  quoted : Bool := false
  /-- Whether it is the word of a parameter's use, in which literals are split too. -/
  inUse : Bool := false
  tildes : Tildes := .nowhere
  deriving DecidableEq, Repr

namespace Interpreter

/-- The glyphs of a literal that is not quoted. -/
def homes (i : Interpreter) (tildes : Tildes) (first goesOn : Bool) (s : Text) : List Glyph :=
  match tildes with
  | .nowhere => Glyph.ofText false s
  | .atStart => if first then i.homePiece goesOn s else Glyph.ofText false s
  | .inList => i.homePieces goesOn first (Text.splitOn ':' s)

/-- The segments of a literal. -/
def literal (i : Interpreter) (manner : Manner) (first goesOn quoted : Bool) (s : Text) :
    List Segment :=
  if quoted then [⟨if s = [] then [.quotes] else Glyph.ofText true s, .never⟩]
  else
    let glyphs :=
      if manner.quoted then Glyph.ofText true s else i.homes manner.tildes first goesOn s
    [⟨glyphs, if manner.splits && manner.inUse && !manner.quoted then .atSeparators else .never⟩]

/-- The segments of a value. -/
def valueSegments (manner : Manner) (quoted : Bool) (s : Text) : List Segment :=
  if quoted then [⟨Glyph.ofText true s, .never⟩]
  else [⟨Glyph.ofText false s, if manner.splits then .atSeparators else .never⟩]

/-- The segments of the positional parameters, which are fields of their own where fields are made:
    quoted, only for one of their two names. -/
def parametersSegments (i : Interpreter) (manner : Manner) (name : Text) (quoted : Bool) :
    List Segment :=
  if manner.splits ∧ quoted = false then
    let between := if (i.value? separatorsName).isSome then ['\x00'] else [' ']
    [⟨Glyph.ofText false (List.intercalate between i.args), .atSeparators⟩]
  else if manner.splits ∧ name = ['@'] then
    if i.args = [] then []
    else [⟨Glyph.ofText true (List.intercalate ['\x00'] i.args), .atNuls⟩]
  else [⟨Glyph.ofText quoted (List.intercalate i.joint i.args), .never⟩]

/-- The segments of a parameter that is set. -/
def parameterSegments (i : Interpreter) (manner : Manner) (name : Text) (quoted : Bool) :
    List Segment :=
  if name = ['@'] ∨ name = ['*'] then i.parametersSegments manner name quoted
  else valueSegments manner quoted ((i.parameter? name).getD [])

/-- Complains that a parameter is not set. -/
def failUnset (i : Interpreter) (name : Text) (orEmpty : Bool) (message : Text) : Interpreter :=
  let told := if message ≠ [] then message
    else "parameter not set".toList ++ if orEmpty then " or null".toList else []
  i.fail (name ++ ": ".toList ++ told)

/-- Whether a parameter counts as set. -/
def isSet (i : Interpreter) (name : Text) (orEmpty : Bool) : Bool :=
  (i.parameter? name).any fun v => !(orEmpty && v.isEmpty)

/-- Ends the script if a parameter is not set and an option forbids that. -/
def demandSet (i : Interpreter) (name : Text) : Interpreter :=
  if i.has 'u' && (i.parameter? name).isNone then i.failUnset name false [] else i

/-- The value of an arithmetic expression, with its assignments carried out. -/
def arithmetic (i : Interpreter) (expression : Text) : Interpreter × Text :=
  match Arithmetic.evaluate i.value? expression with
  | .ok (n, as) => (i.assignAll (as.map fun a => (a.1, Numeral.write a.2)), Numeral.write n)
  | .error (.value s) => (i.fail ("Illegal number: ".toList ++ s), [])
  | .error (.expression reason) =>
    let told := "arithmetic expression: ".toList ++ reason ++ ": \"".toList ++ expression ++ ['"']
    (i.fail told, [])

end Interpreter

/-! ## Words -/

mutual

/-- The segments of a part; `first` and `goesOn` say where it stands in its word. -/
def Part.expand (outputs : Outputs) :
    Part → Manner → (first goesOn : Bool) → Interpreter → Interpreter × List Segment
  | .literal s quoted, manner, first, goesOn, i => (i, i.literal manner first goesOn quoted s)
  | .parameter name use quoted, manner, _, _, i =>
    use.expand outputs name { manner with quoted := manner.quoted || quoted } i
  | .output script quoted, manner, _, _, i =>
    let (j, s) := outputs script i
    (j, Interpreter.valueSegments manner (manner.quoted || quoted) s)
  | .number expression quoted, manner, _, _, i =>
    let (j, ss) := Word.expand outputs expression { splits := false, quoted := true } true i
    if j.ending.isSome then (j, [])
    else
      let (k, s) := j.arithmetic (Segment.text ss)
      (k, Interpreter.valueSegments manner (manner.quoted || quoted) s)

/-- The segments of a parameter in its use. -/
def Use.expand (outputs : Outputs) (name : Text) :
    Use → Manner → Interpreter → Interpreter × List Segment
  | .value, manner, i =>
    let j := i.demandSet name
    (j, j.parameterSegments manner name manner.quoted)
  | .length, manner, i =>
    let j := i.demandSet name
    let s := (j.parameter? name).getD []
    (j, Interpreter.valueSegments manner manner.quoted (Text.decimal s.length))
  | .fallback orEmpty word, manner, i =>
    if i.isSet name orEmpty then (i, i.parameterSegments manner name manner.quoted)
    else Word.expand outputs word { manner with inUse := true, tildes := .atStart } true i
  | .replace orEmpty word, manner, i =>
    if i.isSet name orEmpty then
      Word.expand outputs word { manner with inUse := true, tildes := .atStart } true i
    else (i, [])
  | .assign orEmpty word, manner, i =>
    if i.isSet name orEmpty then (i, i.parameterSegments manner name manner.quoted)
    else
      let (j, ss) := Word.expand outputs word
        { splits := false, quoted := manner.quoted, tildes := .atStart } true i
      if j.ending.isSome then (j, [])
      else
        let k := j.assign name (Segment.text ss)
        (k, k.parameterSegments manner name manner.quoted)
  | .demand orEmpty word, manner, i =>
    if i.isSet name orEmpty then (i, i.parameterSegments manner name manner.quoted)
    else
      let (j, ss) := Word.expand outputs word
        { splits := false, quoted := manner.quoted, tildes := .atStart } true i
      (if j.ending.isSome then j else j.failUnset name orEmpty (Segment.text ss), [])
  | .dropFront longest pattern, manner, i =>
    let j := i.demandSet name
    if j.ending.isSome then (j, [])
    else
      let (j, ss) := Word.expand outputs pattern { splits := false, tildes := .atStart } true j
      let items := Pattern.ofMarks (Glyph.marks (ss.flatMap Segment.glyphs))
      let s := Pattern.dropFront longest items ((j.parameter? name).getD [])
      (j, Interpreter.valueSegments manner manner.quoted s)
  | .dropBack longest pattern, manner, i =>
    let j := i.demandSet name
    if j.ending.isSome then (j, [])
    else
      let (j, ss) := Word.expand outputs pattern { splits := false, tildes := .atStart } true j
      let items := Pattern.ofMarks (Glyph.marks (ss.flatMap Segment.glyphs))
      let s := Pattern.dropBack longest items ((j.parameter? name).getD [])
      (j, Interpreter.valueSegments manner manner.quoted s)
  | .unknown, _, i => (i.fail "Bad substitution".toList, [])

/-- The segments of a word. -/
def Word.expand (outputs : Outputs) :
    List Part → Manner → (first : Bool) → Interpreter → Interpreter × List Segment
  | [], _, _, i => (i, [])
  | p :: rest, manner, first, i =>
    let (j, ss) := p.expand outputs manner first (!rest.isEmpty) i
    if j.ending.isSome then (j, [])
    else
      let (k, more) := Word.expand outputs rest manner false j
      (k, ss ++ more)

end

/-! ## Results -/

namespace Interpreter

/-- The fields of a word. -/
def fieldsOf (outputs : Outputs) (i : Interpreter) (w : Word) : Interpreter × List Text :=
  let (j, ss) := Word.expand outputs w { splits := true, tildes := .atStart } true i
  let fields := (Segment.fields j.separators none ss).map Glyph.marks
  let expanded := if j.has 'f' then fields.map Mark.toText
    else fields.flatMap (PathPattern.paths j.world.files j.world.workDir)
  (j, expanded)

/-- The fields of some words. -/
def fields (outputs : Outputs) (i : Interpreter) : List Word → Interpreter × List Text
  | [] => (i, [])
  | w :: rest =>
    let (j, fs) := i.fieldsOf outputs w
    if j.ending.isSome then (j, [])
    else
      let (k, more) := fields outputs j rest
      (k, fs ++ more)

/-- The text of a word that makes no fields. -/
def text (outputs : Outputs) (i : Interpreter) (tildes : Tildes) (w : Word) : Interpreter × Text :=
  let (j, ss) := Word.expand outputs w { splits := false, tildes := tildes } true i
  (j, Segment.text ss)

/-- The pattern of a word. -/
def pattern (outputs : Outputs) (i : Interpreter) (w : Word) : Interpreter × List Pattern.Item :=
  let (j, ss) := Word.expand outputs w { splits := false, tildes := .atStart } true i
  (j, Pattern.ofMarks (Glyph.marks (ss.flatMap Segment.glyphs)))

end Interpreter

end Script

end CommandShell
