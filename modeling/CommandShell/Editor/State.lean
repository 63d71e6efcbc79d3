import CommandShell.Completion.Basic
import CommandShell.Settings
import CommandShell.Text.Control

/-!
# `CommandShell.Editor.State` — what one key does

The line editor between two keys, and its reaction to a key: the line so far, what to show, and
whether the read is over. Nothing here reads or writes; the reaction says all that there is to do.

## Contents
- **State.** `Editor.State`: the line, how often Tab has been pressed to no avail, and how far an
  escape sequence has come.
- **Escape sequences.** `Escape.skip?` tells which keys belong to a sequence and are dropped. A
  control character never does: it ends the sequence and acts as usual.
- **Reactions.** `Editor.press`; `Editor.act` for keys outside escape sequences, and
  `Editor.pressTab` for completion. A choice of names rings the bell at the first Tab and is listed
  at the second.
-/

namespace CommandShell

/-! ## State -/

/-- How far an escape sequence has come. -/
inductive Escape where
  /-- Outside any sequence. -/
  | outside
  /-- After ESC. -/
  | start
  /-- After `ESC [`, until a final character from `@` to `~`. -/
  | csi
  /-- After `ESC O`, until the next character. -/
  | ss3
  deriving DecidableEq, Repr

/-- Where the sequence stands after the character `c`, if `c` belongs to it; nothing, if `c` acts
    as a key of its own. -/
def Escape.skip? (e : Escape) (c : Char) : Option Escape :=
  match e with
  | .outside => none
  | .start => if c = '[' then some .csi else if c = 'O' then some .ss3 else none
  | .csi =>
    if Text.isControl c then none else if '@' ≤ c ∧ c ≤ '~' then some .outside else some .csi
  | .ss3 => if Text.isControl c then none else some .outside

/-- How a read ended. -/
inductive ReadOutcome where
  /-- With a line, without the key that ended it. -/
  | line (text : Text)
  /-- With Ctrl+C. -/
  | interrupted
  deriving DecidableEq, Repr

/-- What an editor works with: the names that Tab completes, and the prompt that it shows again
    below a list of names. -/
structure Editor where
  registry : Registry
  prompt : Text
  deriving DecidableEq

namespace Editor

/-- The editor between two keys. -/
structure State where
  /-- The line typed so far. -/
  buffer : Text := []
  /-- How many Tabs in a row have found a choice without listing it. -/
  tabs : Nat := 0
  /-- How far an escape sequence has come. -/
  escape : Escape := .outside
  deriving DecidableEq, Repr

/-- What a key does. -/
structure Reaction where
  /-- The editor afterwards. -/
  state : State
  /-- What is shown. -/
  echo : Text := []
  /-- The end of the read, if the key ends it. -/
  ending : Option ReadOutcome := none
  deriving DecidableEq, Repr

/-! ## Reactions -/

/-- A line break; the terminal itself adds no carriage return while single keys are read. -/
def lineBreak : Text := ['\r', '\n']

/-- What takes one character off the screen: back, blank it, back again. -/
def eraseEcho : Text := [Text.backspace, ' ', Text.backspace]

/-- What stands between two names of a list. -/
def columnGap : Text := [' ', ' ']

/-- The list of names below the line, with prompt and line shown again. -/
def listing (e : Editor) (names : List Text) (buffer : Text) : Text :=
  lineBreak ++ List.intercalate columnGap names ++ lineBreak ++ e.prompt ++ buffer

/-- Tab: adds what completes the line, or rings the bell; the second of two Tabs that find the same
    choice lists it. -/
def pressTab (e : Editor) (s : State) : Reaction :=
  let tabs := s.tabs + 1
  match e.registry.complete s.buffer with
  | .direct suffix =>
    { state := { s with buffer := s.buffer ++ suffix, tabs := 0 }, echo := suffix }
  | .noMatch => { state := { s with tabs := 0 }, echo := [Text.bell] }
  | .choice names =>
    if tabs = 1 then { state := { s with tabs := tabs }, echo := [Text.bell] }
    else { state := { s with tabs := 0 }, echo := e.listing names s.buffer }

/-- Backspace: takes the last character off the line, if there is one. -/
def pressErase (s : State) : Reaction :=
  if s.buffer = [] then { state := s }
  else { state := { s with buffer := s.buffer.dropLast }, echo := eraseEcho }

/-- A control character that no key of the editor sends. -/
def isIgnored (c : Char) : Bool :=
  Text.isControl c && c != Text.interruptKey && c != '\r' && c != '\n' && c != Text.eraseKey &&
    c != '\t' && c != Text.escapeKey

/-- A key outside escape sequences. -/
def act (e : Editor) (s : State) (c : Char) : Reaction :=
  if c = Text.interruptKey then { state := s, ending := some .interrupted }
  else if c = '\r' ∨ c = '\n' then
    { state := { s with buffer := [] }, echo := lineBreak, ending := some (.line s.buffer) }
  else if c = Text.eraseKey then pressErase s
  else if c = '\t' then e.pressTab s
  else if c = Text.escapeKey then { state := { s with escape := .start } }
  else if isIgnored c then { state := s }
  else { state := { s with buffer := s.buffer ++ [c] }, echo := [c] }

/-- The state in which a key is looked at: every key but Tab ends a row of Tabs. -/
def beforeKey (s : State) (c : Char) : State := if c = '\t' then s else { s with tabs := 0 }

/-- Whether a key is dropped and does nothing at all. -/
def ignores (s : State) (c : Char) : Bool := (s.escape.skip? c).isNone && isIgnored c

/-- Any key. -/
def press (e : Editor) (s : State) (c : Char) : Reaction :=
  match s.escape.skip? c with
  | some next => { state := { beforeKey s c with escape := next } }
  | none => e.act { beforeKey s c with escape := .outside } c

end Editor

end CommandShell
