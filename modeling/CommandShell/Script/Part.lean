import CommandShell.Script.Command.Table
import CommandShell.Script.Redirection

/-!
# `CommandShell.Script.Part` — scripts inside scripts

A statement is given a meaning by whoever runs it. Here are the scripts that are not a part of the
statement being run: texts that are carried out line by line, traps, and parts of a script that have
a state of their own.

## Contents
- **Meanings.** `Setting` is where a statement stands, and `Meaning` what statements do.
- **Lines.** `Feed` is where the text of a script comes from. `Interpreter.runFeed` carries it out,
  one line after the other.
- **Traps.** `Interpreter.runTraps` for signals that have come, and `Interpreter.finish` for the
  end.
- **Parts.** `Interpreter.runPart` carries something out in a state of its own; files and what was
  written last, variables do not. `Interpreter.outputOf` gives the output of a script.
-/

namespace CommandShell

namespace Script

/-! ## Meanings -/

/-- Where a statement stands. -/
structure Setting where
  /-- Whether its failure is looked at, so that it is no failure of the script. -/
  tested : Bool := false
  /-- Whether nothing follows it, so that a program may take the place of the script. -/
  last : Bool := false
  /-- What the clauses of a choice are about. -/
  subject : Text := []

/-- What statements do. -/
abbrev Meaning := Statement → Setting → Interpreter → Interpreter

/-! ## Lines -/

/-- Where the text of a script comes from. -/
inductive Feed where
  /-- All of it is there. -/
  | text
  /-- More of it may be in a file. -/
  | file (h : Handle)
  /-- More of it may be in the standard input. -/
  | input

namespace Interpreter

/-- Takes what there is of the text of a script; NULs are no part of it. -/
def takeText (i : Interpreter) : Feed → Interpreter × Feed × Text
  | .text => (i, .text, [])
  | .file h =>
    let text := Channel.unread i.world.files (.input h)
    (i, .file { h with offset := h.offset + text.length }, text.filter (· != '\x00'))
  | .input =>
    let text := i.unread 0
    (i.advance 0 text.length, .input, text.filter (· != '\x00'))

/-- Writes lines of a script to the standard error before they are carried out, if an option asks
    for it; texts that are there as a whole are not shown. -/
def showLines (i : Interpreter) (feed : Feed) (lines : Text) : Interpreter :=
  match feed with
  | .text => i
  | _ => if i.has 'v' then (i.writeTo 2 lines).1 else i

/-- The first lines of a text, so many of them. -/
def firstLines : Nat → Text → Text
  | 0, _ => []
  | _, [] => []
  | n + 1, c :: rest => c :: firstLines (if c = '\n' then n else n + 1) rest

/-- Fails because of a script that cannot be read. -/
def failSyntax (i : Interpreter) (e : SyntaxError) : Interpreter :=
  { i with line := e.line }.fail ("Syntax error: ".toList ++ e.complaint)

/-- The number of lines that a script may have. -/
def lineLimit : Nat := 1000000000

/-- Carries out the lines of a script, at most so many; also tells whether there was a statement in
    them. -/
def runFeed (meaning : Meaning) (setting : Setting) :
    Nat → (ran : Bool) → Feed → Source → Interpreter → Interpreter × Bool
  | 0, ran, _, _, i => (i, ran)
  | n + 1, ran, feed, source, i =>
    if i.isHalted then (i, ran)
    else
      let (i, feed, more) := if source.rest = [] ∧ !source.isFinished then i.takeText feed
        else (i, feed, [])
      let source := { source with rest := source.rest ++ more, aliases := i.aliases }
      if source.rest = [] then (i, ran)
      else match source.readLine with
        | .error e =>
          let lines := firstLines (e.line + 1 - source.line) source.rest
          ((i.showLines feed lines).failSyntax e, true)
        | .ok (s, after) =>
          let lines := source.rest.take (source.rest.length - after.rest.length)
          let setting := { setting with last := setting.last && after.isFinished }
          let j := i.showLines feed lines
          if s.isNothing then runFeed meaning setting n ran feed after j
          else runFeed meaning setting n true feed after (meaning s setting j)

/-- Carries out a text. -/
def runText (meaning : Meaning) (setting : Setting) (text : Text) (i : Interpreter) :
    Interpreter × Bool :=
  runFeed meaning setting (text.length + 1) false .text (Source.ofText text) i

/-! ## Traps -/

/-- Carries out what a signal leads to. The status is the same afterwards, unless that returns from
    a function. -/
def runTrap (meaning : Meaning) (i : Interpreter) (signal : Nat) : Interpreter :=
  if i.isHalted then { i with pending := i.pending ++ [signal] }
  else match (i.traps.lookup signal).filter (· != []) with
    | none => i
    | some action =>
      let (j, _) := runText meaning {} action { i with trapStatus := some i.status }
      let returns := j.skip = some .return_
      if j.ending.isSome then j
      else { j.ended (if returns then j.status else i.status) with trapStatus := i.trapStatus }

/-- Carries out what the signals that have come lead to, if the script is no part of another. -/
def runTraps (meaning : Meaning) (i : Interpreter) : Interpreter :=
  let j := i.receiveAll
  if j.isPart || j.isHalted || j.pending.isEmpty then j
  else (j.pending.mergeSort).foldl (runTrap meaning) { j with pending := [] }

/-- The script at its end, after its trap for that. Only an end in the trap itself changes the
    status. -/
def finish (meaning : Meaning) (i : Interpreter) : Interpreter :=
  match i.ending with
  | some (.killed _) | some (.replaced _) => i
  | _ =>
    match (i.traps.lookup 0).filter (· != []) with
    | none => i
    | some action =>
      let begun := { i.setTrap 0 none with
        ending := none, skip := none, loops := 0, within := none, trapStatus := some i.status }
      let (j, _) := runText meaning {} action begun
      if j.ending.isSome then j else { j.ended i.status with ending := i.ending }

/-! ## Parts -/

/-- A part of a script, with a state of its own. It does not have the traps of the script, except
    for signals that do nothing. -/
def part (i : Interpreter) (streams : Streams) : Interpreter :=
  { i with
    streams := streams
    traps := i.traps.filter fun t => t.2 == []
    isPart := true
    pending := []
    trapStatus := none }

/-- The status of a script that has ended. -/
def exitStatus (i : Interpreter) : ExitStatus :=
  match i.ending with
  | some (.killed n) => .signal n
  | some (.replaced status) => status
  | _ => .code (i.status % 256)

/-- Carries something out in a state of its own; its streams and its status at the end. -/
def runPart (meaning : Meaning) (streams : Streams) (body : Interpreter → Interpreter)
    (i : Interpreter) : Interpreter × Streams × ExitStatus :=
  let ended := finish meaning (body (i.part streams))
  let back := { i with
    world := { ended.world with workDir := i.world.workDir }
    streams := i.streams.afterStart ended.streams }
  (back, ended.streams, ended.exitStatus)

/-- The script after a program or a part of it has ended. If nothing follows, the script ends in the
    same way. -/
def afterStart (i : Interpreter) (setting : Setting) (status : ExitStatus) : Interpreter :=
  if i.ending.isSome then i
  else if setting.last && !i.hasTraps then i.quit (.replaced status)
  else (i.ended status.number).reportEnd status

/-- Streams in which what is written to a descriptor is gathered in a new channel. -/
def gathering (s : Streams) (descriptor : Nat) : Streams :=
  { s.forStart.add descriptor (.gathered []) with shared := s.channels.length + 1 }

/-- What was gathered in the channel of a number. -/
def gathered (s : Streams) (channel : Nat) : Text :=
  match s.channels[channel]? with
  | some (.gathered text) => text
  | _ => []

/-- Carries something out, and gives its output too. -/
def runGathering (meaning : Meaning) (body : Interpreter → Interpreter) (i : Interpreter) :
    Interpreter × Text × ExitStatus :=
  let (j, streams, status) := runPart meaning (gathering i.streams 1) body i
  (j, gathered streams i.streams.channels.length, status)

/-- The text without the line breaks at its end. -/
def withoutBreaks (s : Text) : Text := (s.reverse.dropWhile (· == '\n')).reverse

/-- The output of a script, as it stands in a word: without NULs, and without line breaks at its
    end. -/
def outputOf (meaning : Meaning) : Outputs := fun script i =>
  if script.isNothing then (i, [])
  else
    let (j, text, status) := runGathering meaning (meaning script { last := true }) i
    let told := (j.reportEnd status).receiveAll
    ({ told with outputStatus := status.number }, withoutBreaks (text.filter (· != '\x00')))

end Interpreter

end Script

end CommandShell
