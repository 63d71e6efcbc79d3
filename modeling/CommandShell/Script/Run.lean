import CommandShell.Script.Part

/-!
# `CommandShell.Script.Run` — carrying out statements

A script is carried out by recursion on its statements. Whatever it does not do itself is left to a
`Starter`, which starts another program.

## Contents
- **Words.** `Interpreter.commandFields` expands the words of a command, and `commandBehind` passes
  over the word that rules functions out.
- **Own commands.** `Interpreter.runOwn` carries out what a script does itself, for commands that
  carry out other commands too.
- **Simple commands.** `Interpreter.runSimple`. A failure that nothing tested may end the script,
  see `Interpreter.checked`.
- **Loops.** `Interpreter.repeatLoop` and `Interpreter.repeatEach`.
- **Statements.** `Statement.run`, and `meaning` for statements inside each other to a limited
  depth.
-/

namespace CommandShell

namespace Script

/-! ## Words -/

/-- The words behind the word `command` and its options, if they are a command to carry out. -/
def commandBehind? : List Text → Option (List Text)
  | [] => none
  | word :: rest =>
    if word = "--".toList then if rest = [] then none else some rest
    else match word with
      | '-' :: c :: more => if (c :: more).all (· == 'p') then commandBehind? rest else none
      | _ => some (word :: rest)

/-- The command behind words that rule functions out, at most so many; also whether there were
    any. -/
def commandBehind : Nat → List Text → Bool × List Text
  | 0, words => (false, words)
  | n + 1, words =>
    if words.head? = some "command".toList then
      match commandBehind? (words.drop 1) with
      | some rest => (true, (commandBehind n rest).2)
      | none => (false, words)
    else (false, words)

namespace Interpreter

/-- The command that some fields are, and whether functions are ruled out. -/
def command (i : Interpreter) (fields : List Text) : Bool × List Text :=
  if (i.functions.lookup "command".toList).isSome then (false, fields)
  else commandBehind fields.length fields

/-- Whether the arguments of a command may be assignments. -/
def takesAssignments (i : Interpreter) (fields : List Text) : Bool :=
  let (bare, words) := i.command fields
  words.head?.any fun name => declares name && (bare || (i.functions.lookup name).isNone)

/-- The fields of the words of a command, after some fields. Arguments that are assignments are not
    split. -/
def commandFields (outputs : Outputs) (i : Interpreter) (soFar : List Text) :
    List Word → Interpreter × List Text
  | [] => (i, soFar)
  | w :: rest =>
    let (j, fields) := match if i.takesAssignments soFar then assignment? w else none with
      | some (name, value) =>
        let (j, s) := i.text outputs .inList value
        (j, [name ++ '=' :: s])
      | none => i.fieldsOf outputs w
    if j.ending.isSome then (j, []) else commandFields outputs j (soFar ++ fields) rest

/-! ## Traces -/

/-- The text in front of a command that is shown before it is carried out. -/
def tracePrefix (outputs : Outputs) (i : Interpreter) : Interpreter × Text :=
  match Source.readText ((i.value? "PS4".toList).getD []) with
  | .error _ => (i, [])
  | .ok w =>
    let (j, s) := { i with options := i.options.put 'x' false }.text outputs .nowhere w
    ({ j with options := i.options }, s)

/-- Writes the words of a command to a channel before it is carried out, if an option asks for
    it. -/
def trace (outputs : Outputs) (i : Interpreter) (channel : Option Nat) (words : List Text) :
    Interpreter :=
  if i.has 'x' then
    let (j, lead) := i.tracePrefix outputs
    match channel with
    | some n => (j.writeToChannel n (lead ++ List.intercalate [' '] words ++ ['\n'])).1
    | none => j
  else i

/-! ## Own commands -/

/-- Carries out a command of the script's own. Only some commands end the script when they fail. -/
def runOwn (i : Interpreter) (name : Text) (special : Bool) (action : Action) (args : List Text) :
    Interpreter :=
  let j := action { i with within := some name } args
  let k := { j with within := i.within }
  match k.ending with
  | some (.failure n) => if special then k else { k with ending := none }.ended n
  | _ => k

/-- `eval`: carries out its arguments as a script. -/
def runEval (meaning : Meaning) (setting : Setting) : Action := fun i args =>
  let (j, ran) :=
    runText meaning { tested := setting.tested } (List.intercalate [' '] args) i
  if ran then j else j.ended 0

/-- The path of a script to read in: a name without a slash is looked up on the search path. -/
def sourcePath? (i : Interpreter) (name : Text) : Option Text :=
  if '/' ∈ name then some name
  else
    ((i.candidates name).find? fun path =>
      (i.world.files.stat i.world.workDir path).toOption.any Node.isRegular).map ofBytes

/-- `.`: carries out the lines of a file. -/
def runSource (meaning : Meaning) (setting : Setting) : Action := fun i args =>
  i.withLetters "" args fun l =>
    match l.rest with
    | [] => i.ended 0
    | name :: _ =>
      match i.sourcePath? name with
      | none => i.fail (name ++ ": not found".toList)
      | some path =>
        match i.world.files.openToRead i.world.workDir (toBytes path) with
        | .error fault =>
          i.fail ("cannot open ".toList ++ path ++ ": ".toList ++
            describeFault "No such file".toList fault)
        | .ok h =>
          let (j, ran) := runFeed meaning { tested := setting.tested } lineLimit false (.file h)
            (Source.ofText []) { i with within := some path }
          let k := if ran then j else j.ended 0
          if k.skip = some .return_ then { k with skip := none } else k

/-- `exec`: a program takes the place of the script. -/
def runExec (start : Starter) : Action := fun i args =>
  match args with
  | [] => i.ended 0
  | name :: args =>
    match i.startFirst start true name args .noEntry (i.candidates name) with
    | (j, some status) => j.quit (.replaced status)
    | (j, none) => j.quit (.exit j.status)

/-- What the command of a name does, if the script carries it out itself. -/
def ownAction? (start : Starter) (meaning : Meaning) (setting : Setting) (name : Text) :
    Option Action :=
  if name = "eval".toList then some (runEval meaning setting)
  else if name = ['.'] then some (runSource meaning setting)
  else if name = "exec".toList then some (runExec start)
  else actionNamed? name

/-! ## Functions and programs -/

/-- Carries out a function with its arguments. -/
def callFunction (meaning : Meaning) (setting : Setting) (i : Interpreter) (body : Statement)
    (args : List Text) : Interpreter :=
  let j := meaning body { tested := setting.tested } { i.setArgs args with loops := 0 }
  { j with
    args := i.args
    loops := i.loops
    optionNext := i.optionNext
    optionPlace := i.optionPlace
    skip := if j.skip = some .return_ then none else j.skip }

/-- Carries out a program. -/
def runProgram (start : Starter) (setting : Setting) (i : Interpreter) (name : Text)
    (args : List Text) : Interpreter :=
  match i.startNamed start name args with
  | (j, none) => j
  | (j, some status) => j.afterStart setting status

/-! ## Simple commands -/

/-- Carries out assignments, which functions and most commands give back; also the assignments with
    their values. -/
def assignWords (outputs : Outputs) (i : Interpreter) (isKept isPublished : Bool) :
    List (Text × Word) → Interpreter × List Text
  | [] => (i, [])
  | (name, w) :: rest =>
    let (j, value) := i.text outputs .inList w
    if j.ending.isSome then (j, [])
    else
      let k := (if isKept then j.keep name else j).assign name value
      if k.ending.isSome then (k, [])
      else
        let k := if isPublished then k.mark name fun v => { v with exported := true } else k
        let (l, more) := assignWords outputs k isKept isPublished rest
        (l, (name ++ '=' :: value) :: more)

/-- Ends the script after a command that failed, if an option asks for it and the failure was not
    tested. -/
def checked (i : Interpreter) (setting : Setting) : Interpreter :=
  if i.ending.isNone && i.status != 0 && i.has 'e' && !setting.tested then i.quit (.exit i.status)
  else i

/-- The script after a redirection that could not be opened: those in force are taken back. -/
def refuse (i before : Interpreter) (rs : List (Redirect Target)) : Interpreter :=
  (i.release before rs).ended 2

/-- Carries out what a command is, when its words and redirections are known. -/
def runCommand (start : Starter) (meaning : Meaning) (setting : Setting) (i : Interpreter)
    (bare : Bool) (words : List Text) : Interpreter :=
  match words with
  | [] => i.ended i.outputStatus
  | name :: args =>
    match if bare then none else i.functions.lookup name with
    | some body => i.callFunction meaning setting body args
    | none =>
      match ownAction? start meaning setting name with
      | some action => i.runOwn name (!bare && specialCommands.contains name) action args
      | none => i.runProgram start setting name args

/-- Carries out a simple command. -/
def runSimple (start : Starter) (meaning : Meaning) (setting : Setting) (line : Nat)
    (assignments : List (Text × Word)) (words : List Word) (redirects : List (Redirect Word))
    (i : Interpreter) : Interpreter :=
  let outputs := outputOf meaning
  let (before, fields) := commandFields outputs { i with line := line, outputStatus := 0 } [] words
  if before.ending.isSome then before
  else
    let (before, rs) := before.targets outputs redirects
    if before.ending.isSome then before
    else
      let (bare, words) := before.command fields
      let special := !bare && words.head?.any specialCommands.contains
      match (before.hold rs).redirect outputs rs with
      | (j, false) =>
        let told := j.refuse before rs
        if special then told.quit (.failure 2) else told
      | (j, true) =>
        let replaces := words.head? = some "exec".toList
        let isFunction := !bare && words.head?.any fun name => (j.functions.lookup name).isSome
        let isKept := words ≠ [] && !special
        let framed := isFunction || isKept && assignments.length ≠ 0
        let (k, given) := (if framed then j.enterFrame else j).assignWords outputs isKept
          (isKept || replaces) assignments
        let shown := given ++ fields
        let ran := if k.ending.isSome then k
          else
            let traced := if shown = [] then k else k.trace outputs (before.streams.index? 2) shown
            traced.runCommand start meaning setting bare words
        let left := if framed then ran.leaveFrame else ran
        if replaces then left.settleStreams before else left.release before rs

/-! ## Loops -/

/-- The script after a turn of a loop, and whether the loop is over. -/
def endTurn (i : Interpreter) : Interpreter × Bool :=
  match i.skip with
  | none => (i, i.ending.isSome)
  | some (.break_ n) => ({ i with skip := if n ≤ 1 then none else some (.break_ (n - 1)) }, true)
  | some (.continue_ n) =>
    if n ≤ 1 then ({ i with skip := none }, false)
    else ({ i with skip := some (.continue_ (n - 1)) }, true)
  | some .return_ => (i, true)

/-- Carries out a loop with a condition, at most so many turns of it. The status is that of the last
    turn. -/
def repeatLoop (untilDone : Bool) (test body : Interpreter → Interpreter) :
    Nat → (status : Nat) → Interpreter → Interpreter
  | 0, status, i => i.ended status
  | n + 1, status, i =>
    let j := test i
    if j.ending.isSome || j.skip == some .return_ then j
    else if j.skip.isSome then
      let (k, isOver) := j.endTurn
      if isOver then k.ended status else repeatLoop untilDone test body n status k
    else if (j.status == 0) == untilDone then j.ended status
    else
      let (k, isOver) := (body j).endTurn
      if isOver then k else repeatLoop untilDone test body n k.status k

/-- The number of turns that a loop may have. -/
def turnLimit : Nat := 1000000000

/-- Carries out a loop over some values. -/
def repeatEach (name : Text) (body : Interpreter → Interpreter) :
    List Text → Interpreter → Interpreter
  | [], i => i
  | value :: rest, i =>
    let j := i.assign name value
    if j.ending.isSome then j
    else
      let (k, isOver) := (body j).endTurn
      if isOver then k else repeatEach name body rest k

/-! ## Compound statements -/

/-- Carries something out unless commands are passed over. -/
def unlessHalted (i : Interpreter) (action : Interpreter → Interpreter) : Interpreter :=
  if i.isHalted || i.has 'n' then i else action i

/-- Carries something out as a loop. -/
def inLoop (i : Interpreter) (action : Interpreter → Interpreter) : Interpreter :=
  { action { i with loops := i.loops + 1 } with loops := i.loops }

/-- Carries something out with redirections in force. -/
def runRedirected (meaning : Meaning) (setting : Setting) (line : Nat)
    (redirects : List (Redirect Word)) (body : Interpreter → Interpreter) (i : Interpreter) :
    Interpreter :=
  let (before, rs) := { i with line := line }.targets (outputOf meaning) redirects
  if before.ending.isSome then before
  else match (before.hold rs).redirect (outputOf meaning) rs with
    | (j, false) => (j.refuse before rs).checked setting
    | (j, true) => (body j).release before rs

/-- Carries something out in a state of its own, with redirections in force. -/
def runInside (meaning : Meaning) (setting : Setting) (line : Nat)
    (redirects : List (Redirect Word)) (body : Interpreter → Interpreter) (i : Interpreter) :
    Interpreter :=
  let (before, rs) := { i with line := line }.targets (outputOf meaning) redirects
  if before.ending.isSome then before
  else
    let inner := fun (i : Interpreter) => match i.redirect (outputOf meaning) rs with
      | (j, false) => j.quit (.failure 2)
      | (j, true) => body j
    if setting.last && !before.hasTraps then
      let j := inner before
      if j.ending.isSome then j else j.quit (.exit j.status)
    else
      let (j, _, status) := runPart meaning before.streams.forStart inner before
      j.afterStart setting status

/-- Carries something out as if in the background; it is over before the script goes on. -/
def runBackground (meaning : Meaning) (line : Nat) (body : Interpreter → Interpreter)
    (i : Interpreter) : Interpreter :=
  let streams := i.streams.forStart.add 0 (.supply [])
  let number := i.world.lastProcess + 1
  let (j, _, status) := runPart meaning streams body
    { i with line := line, world := { i.world with lastProcess := number } }
  { j with jobs := (number, status) :: j.jobs }.ended 0

/-- Carries out two things of which the second reads what the first writes. -/
def runPipe (meaning : Meaning) (setting : Setting) (first second : Interpreter → Interpreter)
    (i : Interpreter) : Interpreter :=
  let (j, text, status) := runGathering meaning first i
  let told := j.reportEnd status
  let streams := told.streams.forStart.add 0 (.supply text)
  let (k, _, status) := runPart meaning streams second told
  k.afterStart { setting with last := false } status

/-- Expands the subject of a choice. -/
def chosen (meaning : Meaning) (line : Nat) (subject : Word) (i : Interpreter) :
    Interpreter × Text :=
  { i with line := line }.text (outputOf meaning) .atStart subject

/-- Whether one of some patterns matches a subject. -/
def matchesAny (meaning : Meaning) (subject : Text) : List Word → Interpreter → Interpreter × Bool
  | [], i => (i, false)
  | w :: rest, i =>
    let (j, items) := i.pattern (outputOf meaning) w
    if j.ending.isSome then (j, false)
    else if Pattern.accepts items subject then (j, true)
    else matchesAny meaning subject rest j

/-- The values of a loop: the fields of some words or, without words, the positional parameters. -/
def loopValues (meaning : Meaning) (line : Nat) (items : Option (List Word)) (i : Interpreter) :
    Interpreter × List Text :=
  let i := { i with line := line }
  match items with
  | some words => i.fields (outputOf meaning) words
  | none => (i, i.args)

end Interpreter

/-! ## Statements -/

/-- Carries out a statement; after the end of the script, nothing happens. What a condition looks at
    is tested: its failure is no failure of the script. Scripts that are not a part of the statement
    have the given meaning. -/
def Statement.run (start : Starter) (meaning : Meaning) :
    Statement → Setting → Interpreter → Interpreter
  | .nothing, _, i => i
  | .simple line assignments words redirects, setting, i =>
    i.unlessHalted fun i =>
      let j := i.runSimple start meaning setting line assignments words redirects
      (j.runTraps meaning).checked setting
  | .sequence a b, setting, i =>
    b.run start meaning setting (a.run start meaning { setting with last := false } i)
  | .both a b, setting, i =>
    i.unlessHalted fun i =>
      let j := a.run start meaning { setting with tested := true, last := false } i
      if !j.isHalted && j.status == 0 then b.run start meaning setting j else j
  | .either a b, setting, i =>
    i.unlessHalted fun i =>
      let j := a.run start meaning { setting with tested := true, last := false } i
      if !j.isHalted && j.status != 0 then b.run start meaning setting j else j
  | .opposite a, _, i =>
    i.unlessHalted fun i =>
      let j := a.run start meaning { tested := true } i
      if j.isHalted then j else j.ended (if j.status = 0 then 1 else 0)
  | .branch test yes no, setting, i =>
    i.unlessHalted fun i =>
      let j := test.run start meaning { tested := true } i
      if j.isHalted then j
      else if j.status = 0 then yes.run start meaning setting j
      else if no.isNothing then j.ended 0
      else no.run start meaning setting j
  | .loop untilDone test body, setting, i =>
    i.unlessHalted fun i => i.inLoop fun i =>
      i.repeatLoop untilDone (test.run start meaning { tested := true })
        (body.run start meaning { tested := setting.tested }) Interpreter.turnLimit 0
  | .each line name items body, setting, i =>
    i.unlessHalted fun i =>
      let (j, values) := i.loopValues meaning line items
      if j.ending.isSome then j
      else if values = [] then j.ended 0
      else j.inLoop (Interpreter.repeatEach name
        (body.run start meaning { tested := setting.tested }) values)
  | .choice line subject clauses, setting, i =>
    i.unlessHalted fun i =>
      let (j, text) := i.chosen meaning line subject
      if j.ending.isSome then j
      else if clauses.isNothing then j.ended 0
      else clauses.run start meaning { setting with subject := text } j
  | .clause patterns body others, setting, i =>
    let (j, isChosen) := i.matchesAny meaning setting.subject patterns
    let next := fun (s : Statement) (run : Interpreter → Interpreter) =>
      if s.isNothing then j.ended 0 else run j
    if j.ending.isSome then j
    else if isChosen then next body (body.run start meaning setting)
    else next others (others.run start meaning setting)
  | .inside line redirects body, setting, i =>
    i.unlessHalted fun i =>
      let j := i.runInside meaning setting line redirects
        (body.run start meaning { setting with last := true })
      (j.runTraps meaning).checked setting
  | .background line body, _, i =>
    i.unlessHalted fun i =>
      (i.runBackground meaning line (body.run start meaning { last := true })).runTraps meaning
  | .pipe a b, setting, i =>
    i.unlessHalted fun i =>
      let inner := { setting with last := true }
      let j := i.runPipe meaning setting (a.run start meaning inner) (b.run start meaning inner)
      (j.runTraps meaning).checked setting
  | .define name body, _, i =>
    i.unlessHalted fun i =>
      { i with functions := (name, body) :: i.functions.filter fun f => f.1 != name }.ended 0
  | .redirected line redirects body, setting, i =>
    i.unlessHalted fun i =>
      i.runRedirected meaning setting line redirects
        (body.run start meaning { setting with last := false })

/-- The number of scripts that may run inside each other. -/
def scriptLimit : Nat := 1000

/-- The signal that ends a script with too many scripts inside each other. -/
def exhausted : Nat := 11

/-- What statements do, with scripts inside each other to this depth. -/
def meaning (start : Starter) : Nat → Meaning
  | 0 => fun _ _ i => i.quit (.replaced (.signal exhausted))
  | depth + 1 => fun s setting i => s.run start (meaning start depth) setting i

end Script

end CommandShell
