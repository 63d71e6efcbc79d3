import CommandShell.Proofs.Editor.Typing
import CommandShell.Proofs.Shell.Messages

/-!
# `CommandShell.Proofs.Shell.Session` — a session carries out the lines that are typed

The loop of the shell takes its key stream part by part. Behind the prompt, a part does what it does
alone; the line that it leaves is carried out in the world that the line before it has left. Apart from
what prompt and editor show, that is all a session does.

## Contents
- **Failures.** `execute_not_fatal`: no command ends the shell by failing.
- **Line by line.** `Turn`, one line and what came of it; `Follows`, the turns that a list of parts
  takes and where they lead to. `Follows.text`, `Follows.ending_eq`,
  `Follows.not_refused` and `Follows.unique`.
- **Sessions.** `step_segment` and `step_remainder` for one turn of the loop, `run_follows` for all.
- **Lines as text.** `Shell.runLines` carries out lines that nobody has typed; `Follows.runLines_eq`
  says that typing them does the same.
- **Summary.** `session_carries_out`.
-/

namespace CommandShell

open Bytes (IsSegment isTerminator segments remainder)

/-! ## Failures -/

namespace World

theorem openSink_not_fatal {w : World} {stream : Stream} {target : Option Path} {append : Bool}
    {failure : Failure} (h : w.openSink stream target append = .error failure) :
    failure.isFatal = false := by
  unfold openSink at h
  split at h
  · cases h
  · split at h
    · cases h
    · cases h
      rfl

theorem openStreams_not_fatal {w w' : World} {c : Command} {failure : Failure}
    (h : w.openStreams c = (w', .error failure)) : failure.isFatal = false := by
  unfold openStreams at h
  split at h
  · next hout =>
    cases h
    exact openSink_not_fatal hout
  · split at h
    · next herr =>
      cases h
      exact openSink_not_fatal herr
    · cases h

theorem perform_not_fatal {launch : Launcher} {settings : Settings} {w w' : World} {name : Text}
    {args : List Text} {out err : Sink} {failure : Failure}
    (h : w.perform launch settings name args out err = (w', .error failure)) :
    failure.isFatal = false := by
  unfold perform at h
  split at h
  · -- a builtin fails if its text cannot be written
    have houtcome := congrArg Prod.snd h
    unfold deliver Report.outcome at houtcome
    dsimp only at houtcome
    split at houtcome
    · cases houtcome
      rfl
    · cases houtcome
  · unfold launchWith at h
    split at h
    · cases h
      rfl
    · cases h
  · cases h
    rfl

/-- **A command that fails** never keeps the shell from going on. -/
theorem execute_not_fatal {launch : Launcher} {settings : Settings} {w w' : World} {c : Command}
    {failure : Failure} (h : w.execute launch settings c = (w', .error failure)) :
    failure.isFatal = false := by
  unfold execute at h
  split at h
  · cases h
  · split at h
    · next hopen =>
      cases h
      exact openStreams_not_fatal hopen
    · exact perform_not_fatal h

end World

/-! ## Line by line -/

/-- One turn of the loop: what prompt and editor show, the command that is carried out if a line has
    been read, and what it writes to the standard output. -/
structure Turn where
  shown : Bytes
  command : Option Command := none
  wrote : Bytes := []

/-- All that stands on the standard output after a turn, and did not before. -/
def Turn.text (t : Turn) : Bytes := t.shown ++ t.wrote

namespace Shell

/-- What the prompt and the read of a part show. -/
def shownFor (s : Shell) (part : Bytes) : Bytes :=
  Utf8.encode s.settings.prompt ++ (s.editor.alone part).output.flushed

/-- The world after the prompt and the read of a part. -/
def afterRead (s : Shell) (w : World) (part : Bytes) : World :=
  (w.onto (.unlimited (w.stdout.text ++ s.shownFor part))).logAll
    ((s.editor.alone part).notices.map Notice.event)

theorem afterRead_stdout (s : Shell) (w : World) (part : Bytes) :
    (s.afterRead w part).stdout = .unlimited (w.stdout.text ++ s.shownFor part) :=
  World.logAll_stdout ..

theorem afterRead_stderr (s : Shell) (w : World) (part : Bytes) :
    (s.afterRead w part).stderr = w.stderr := World.logAll_stderr ..

theorem afterRead_acceptsAll (s : Shell) (w : World) (part : Bytes) :
    (s.afterRead w part).stdout.AcceptsAll := by
  rw [afterRead_stdout]
  exact Output.acceptsAll_unlimited _

/-- A segment is read as an interrupt or as a line, as its last byte says. -/
theorem alone_interrupt (s : Shell) {part : Bytes} (hpart : IsSegment part)
    (hlast : part.getLast? = some Bytes.interrupt) :
    (s.editor.alone part).ending = .ok .interrupted := by
  obtain ⟨-, -, ⟨last, hlast', hends⟩, -⟩ := s.editor.alone_segment hpart
  cases hlast'.symm.trans hlast
  exact hends

theorem exists_alone_line (s : Shell) {part : Bytes} (hpart : IsSegment part)
    (hlast : part.getLast? ≠ some Bytes.interrupt) :
    ∃ line, (s.editor.alone part).ending = .ok (.line line) := by
  obtain ⟨-, -, ⟨last, hlast', hends⟩, -⟩ := s.editor.alone_segment hpart
  have hnot : last ≠ Bytes.interrupt := fun h => hlast (h ▸ hlast')
  rw [Editor.EndsWith, if_neg hnot] at hends
  exact hends

/-- The turn of a part that is read as a line: its command is carried out and ends in this way. -/
structure Carries (s : Shell) (w : World) (part : Bytes) (t : Turn) (w' : World)
    (ended : Except Failure Flow) : Prop where
  shown : t.shown = s.shownFor part
  command : ∃ line, (s.editor.alone part).ending = .ok (.line line) ∧
    t.command = some (Command.ofLine line) ∧
    s.execute (s.afterRead w part) (Command.ofLine line) = (w', ended)
  wrote : (s.afterRead w part).stdout.Grows w'.stdout t.wrote

/-- Every line can be carried out, and only adds to the standard output. -/
theorem exists_carries {s : Shell} (hlaunch : s.launch.OnlyPrints) (w : World) {part : Bytes}
    {line : Text} (hread : (s.editor.alone part).ending = .ok (.line line)) :
    ∃ t w' ended, s.Carries w part t w' ended := by
  obtain ⟨wrote, hgrows, -⟩ :=
    World.prints_execute hlaunch s.settings (Command.ofLine line) _ (s.afterRead_acceptsAll w part)
  exact ⟨⟨s.shownFor part, some (Command.ofLine line), wrote⟩, _, _, rfl, ⟨line, hread, rfl, rfl⟩,
    hgrows⟩

namespace Carries

variable {s : Shell} {w w₁ w₂ : World} {part : Bytes} {t t₁ t₂ : Turn}
  {ended ended₁ ended₂ : Except Failure Flow}

theorem text (h : s.Carries w part t w₁ ended) : w₁.stdout.text = w.stdout.text ++ t.text := by
  rw [h.wrote.text, afterRead_stdout, Output.text_unlimited, List.append_assoc, ← h.shown]
  rfl

/-- A standard error that accepts everything does so after the turn, too. -/
theorem keepsErr (h : s.Carries w part t w₁ ended) (hlaunch : s.launch.KeepsErr) : w.KeepsErr w₁ := by
  obtain ⟨line, -, -, hrun⟩ := h.command
  have hafter := World.keepsErr_execute hlaunch s.settings (s.afterRead w part) (Command.ofLine line)
  unfold execute at hrun
  rw [hrun] at hafter
  intro herr
  refine hafter ?_
  rw [afterRead_stderr]
  exact herr

theorem unique (h₁ : s.Carries w part t₁ w₁ ended₁) (h₂ : s.Carries w part t₂ w₂ ended₂) :
    t₁ = t₂ ∧ w₁ = w₂ ∧ ended₁ = ended₂ := by
  obtain ⟨line, hread, hcommand, hrun⟩ := h₁.command
  obtain ⟨line', hread', hcommand', hrun'⟩ := h₂.command
  cases hread.symm.trans hread'
  cases hrun.symm.trans hrun'
  -- what was written is what has been added to the same text
  have hwrote : t₁.wrote = t₂.wrote :=
    List.append_cancel_left (h₁.wrote.text.symm.trans h₂.wrote.text)
  refine ⟨?_, rfl, rfl⟩
  obtain ⟨shown, command, wrote⟩ := t₁
  obtain ⟨shown', command', wrote'⟩ := t₂
  cases h₁.shown
  cases h₂.shown
  cases hcommand
  cases hcommand'
  cases hwrote
  rfl

/-- A line is not ended by an interrupt. -/
theorem not_interrupt (h : s.Carries w part t w₁ ended) (hpart : IsSegment part) :
    part.getLast? ≠ some Bytes.interrupt := by
  intro hinterrupt
  obtain ⟨line, hread, -⟩ := h.command
  cases (s.alone_interrupt hpart hinterrupt).symm.trans hread

end Carries

end Shell

/-- **Line by line**: the lines that the parts are read as are carried out in order, each in the world
    that the one before has left. The first interrupt, the first command that ends the shell, or else
    the end of the input, within `rest`, is the end. A command that fails leaves a line on the standard
    error; if that is refused, the shell breaks off. -/
inductive Follows (s : Shell) (rest : Bytes) :
    World → List Bytes → List Turn → World → Ending → Prop where
  | closed (w : World) :
      Follows s rest w [] [{ shown := s.shownFor rest }] (s.afterRead w rest)
        (.readFailed .inputClosed)
  | interrupted (w : World) {part : Bytes} (parts : List Bytes)
      (hlast : part.getLast? = some Bytes.interrupt) :
      Follows s rest w (part :: parts) [{ shown := s.shownFor part }]
        ((s.afterRead w part).log .interrupted) .left
  | exited {w w' : World} {part : Bytes} (parts : List Bytes) {t : Turn}
      (hturn : s.Carries w part t w' (.ok .exit)) :
      Follows s rest w (part :: parts) [t] (w'.log .exited) .left
  | wentOn {w w' w'' : World} {part : Bytes} {parts : List Bytes} {t : Turn} {turns : List Turn}
      {ending : Ending} (hturn : s.Carries w part t w' (.ok .goOn))
      (hnext : Follows s rest w' parts turns w'' ending) :
      Follows s rest w (part :: parts) (t :: turns) w'' ending
  | failed {w w' told w'' : World} {part : Bytes} {parts : List Bytes} {t : Turn} {failure : Failure}
      {turns : List Turn} {ending : Ending} (hturn : s.Carries w part t w' (.error failure))
      (htold : w'.tellFailure failure = (told, none))
      (hnext : Follows s rest told parts turns w'' ending) :
      Follows s rest w (part :: parts) (t :: turns) w'' ending
  | brokeOff {w w' told : World} {part : Bytes} (parts : List Bytes) {t : Turn} {failure : Failure}
      {cause : Fault} (hturn : s.Carries w part t w' (.error failure))
      (hrefused : w'.tellFailure failure = (told, some cause)) :
      Follows s rest w (part :: parts) [t] told (.messageRefused cause)

namespace Follows

variable {s : Shell} {rest : Bytes} {w w₁ w₂ : World} {parts : List Bytes}
  {turns turns₁ turns₂ : List Turn} {ending ending₁ ending₂ : Ending}

/-- **All that is printed** is what the turns show and what their commands write. -/
theorem text (h : Follows s rest w parts turns w₁ ending) :
    w₁.stdout.text = w.stdout.text ++ turns.flatMap Turn.text := by
  induction h with
  | closed w =>
    rw [s.afterRead_stdout, Output.text_unlimited]
    simp [Turn.text]
  | interrupted w parts hlast =>
    rw [World.log_stdout, s.afterRead_stdout, Output.text_unlimited]
    simp [Turn.text]
  | exited parts hturn =>
    rw [World.log_stdout, hturn.text, List.flatMap_singleton]
  | wentOn hturn hnext ih => rw [ih, hturn.text, List.flatMap_cons, List.append_assoc]
  | failed hturn htold hnext ih =>
    rw [ih, List.flatMap_cons, ← List.append_assoc, ← hturn.text, ← World.told_stdout htold]
  | brokeOff parts hturn hrefused =>
    rw [World.told_stdout hrefused, hturn.text, List.flatMap_singleton]

/-- The shell is left, or the input is at its end, or a message is refused. -/
theorem ending_eq (h : Follows s rest w parts turns w₁ ending) :
    ending = .left ∨ ending = .readFailed .inputClosed ∨ ∃ cause, ending = .messageRefused cause := by
  induction h with
  | closed => exact .inr (.inl rfl)
  | interrupted => exact .inl rfl
  | exited => exact .inl rfl
  | wentOn _ _ ih => exact ih
  | failed _ _ _ ih => exact ih
  | brokeOff => exact .inr (.inr ⟨_, rfl⟩)

/-- A standard error that accepts everything refuses no message, as long as programs leave it so. -/
theorem not_refused (h : Follows s rest w parts turns w₁ ending) (hlaunch : s.launch.KeepsErr)
    (herr : w.stderr.AcceptsAll) : ∀ cause, ending ≠ .messageRefused cause := by
  induction h with
  | closed => nofun
  | interrupted => nofun
  | exited => nofun
  | wentOn hturn _ ih => exact ih (hturn.keepsErr hlaunch herr)
  | failed hturn htold _ ih =>
    exact ih (World.told_of_acceptsAll (hturn.keepsErr hlaunch herr) htold).2
  | brokeOff _ hturn hrefused =>
    cases (World.told_of_acceptsAll (hturn.keepsErr hlaunch herr) hrefused).1

/-- **Line by line there is only one way** to go. -/
theorem unique (hparts : ∀ part ∈ parts, IsSegment part)
    (h₁ : Follows s rest w parts turns₁ w₁ ending₁) (h₂ : Follows s rest w parts turns₂ w₂ ending₂) :
    turns₁ = turns₂ ∧ w₁ = w₂ ∧ ending₁ = ending₂ := by
  -- the cases exclude each other: an interrupt is no line, and a command ends in one way only
  induction h₁ generalizing turns₂ w₂ ending₂ with
  | closed =>
    cases h₂
    exact ⟨rfl, rfl, rfl⟩
  | interrupted w parts hlast =>
    have hpart := hparts _ List.mem_cons_self
    cases h₂ with
    | interrupted => exact ⟨rfl, rfl, rfl⟩
    | exited _ hturn => exact absurd hlast (hturn.not_interrupt hpart)
    | wentOn hturn => exact absurd hlast (hturn.not_interrupt hpart)
    | failed hturn => exact absurd hlast (hturn.not_interrupt hpart)
    | brokeOff _ hturn => exact absurd hlast (hturn.not_interrupt hpart)
  | exited parts hturn =>
    have hpart := hparts _ List.mem_cons_self
    cases h₂ with
    | interrupted _ _ hlast => exact absurd hlast (hturn.not_interrupt hpart)
    | exited _ hturn' =>
      obtain ⟨rfl, rfl, -⟩ := hturn.unique hturn'
      exact ⟨rfl, rfl, rfl⟩
    | wentOn hturn' => cases (hturn.unique hturn').2.2
    | failed hturn' => cases (hturn.unique hturn').2.2
    | brokeOff _ hturn' => cases (hturn.unique hturn').2.2
  | wentOn hturn hnext ih =>
    have hpart := hparts _ List.mem_cons_self
    cases h₂ with
    | interrupted _ _ hlast => exact absurd hlast (hturn.not_interrupt hpart)
    | exited _ hturn' => cases (hturn.unique hturn').2.2
    | wentOn hturn' hnext' =>
      obtain ⟨rfl, rfl, -⟩ := hturn.unique hturn'
      obtain ⟨rfl, rfl, rfl⟩ := ih (fun p hp => hparts p (List.mem_cons_of_mem _ hp)) hnext'
      exact ⟨rfl, rfl, rfl⟩
    | failed hturn' => cases (hturn.unique hturn').2.2
    | brokeOff _ hturn' => cases (hturn.unique hturn').2.2
  | failed hturn htold hnext ih =>
    have hpart := hparts _ List.mem_cons_self
    cases h₂ with
    | interrupted _ _ hlast => exact absurd hlast (hturn.not_interrupt hpart)
    | exited _ hturn' => cases (hturn.unique hturn').2.2
    | wentOn hturn' => cases (hturn.unique hturn').2.2
    | failed hturn' htold' hnext' =>
      obtain ⟨rfl, rfl, hfailure⟩ := hturn.unique hturn'
      cases hfailure
      cases htold.symm.trans htold'
      obtain ⟨rfl, rfl, rfl⟩ := ih (fun p hp => hparts p (List.mem_cons_of_mem _ hp)) hnext'
      exact ⟨rfl, rfl, rfl⟩
    | brokeOff _ hturn' hrefused =>
      obtain ⟨rfl, rfl, hfailure⟩ := hturn.unique hturn'
      cases hfailure
      cases htold.symm.trans hrefused
  | brokeOff parts hturn hrefused =>
    have hpart := hparts _ List.mem_cons_self
    cases h₂ with
    | interrupted _ _ hlast => exact absurd hlast (hturn.not_interrupt hpart)
    | exited _ hturn' => cases (hturn.unique hturn').2.2
    | wentOn hturn' => cases (hturn.unique hturn').2.2
    | failed hturn' htold =>
      obtain ⟨rfl, rfl, hfailure⟩ := hturn.unique hturn'
      cases hfailure
      cases hrefused.symm.trans htold
    | brokeOff _ hturn' hrefused' =>
      obtain ⟨rfl, rfl, hfailure⟩ := hturn.unique hturn'
      cases hfailure
      cases hrefused.symm.trans hrefused'
      exact ⟨rfl, rfl, rfl⟩

end Follows

/-! ## Sessions -/

theorem World.showPrompt_eq {w : World} (hw : w.stdout.AcceptsAll) (prompt : Text) :
    w.showPrompt prompt = (w.onto (.unlimited (w.stdout.text ++ Utf8.encode prompt)), none) := by
  have hgrows := hw.grows_write (Utf8.encode prompt)
  have hflush := hgrows.acceptsAll.flush_eq
  rw [hgrows.text] at hflush
  unfold showPrompt writeAll writeAll write flush console
  simp only [hw.write_eq] at hflush ⊢
  rw [show ∀ o, (w.setConsole .out o).stdout = o from fun _ => rfl, hflush]
  rfl

namespace Session

variable {s : Shell} {w : World}

/-- A part is read behind the prompt as it is read alone. -/
theorem step_of_readFrom (hw : w.stdout.AcceptsAll) {part : Bytes} {keys rest : List InputEvent}
    (hread : ∀ shown, s.editor.readFrom (.unlimited shown) 0 keys =
      ((s.editor.alone part).after shown 0).leaving rest)
    (houtput : (s.editor.alone part).output = .unlimited (s.editor.alone part).output.flushed) :
    (⟨w, some keys⟩ : Session).step s =
      match (s.editor.alone part).ending with
      | .ok (.line line) => (⟨s.afterRead w part, some rest⟩ : Session).dispatch s line
      | .ok .interrupted => (⟨(s.afterRead w part).log .interrupted, some rest⟩, some .left)
      | .error failure => (⟨s.afterRead w part, some rest⟩ : Session).recover failure := by
  have hworld : s.readLine (w.onto (.unlimited (w.stdout.text ++ Utf8.encode s.settings.prompt)))
      keys = (s.afterRead w part, ((s.editor.alone part).after
        (w.stdout.text ++ Utf8.encode s.settings.prompt) 0).leaving rest) := by
    unfold Shell.readLine
    have hshown : ((s.editor.alone part).output.after
        (w.stdout.text ++ Utf8.encode s.settings.prompt)) =
        .unlimited (w.stdout.text ++ s.shownFor part) := by
      rw [houtput, Output.after_unlimited, List.append_assoc]
      rfl
    rw [World.onto_stdout, hread]
    unfold Editor.Read.leaving Editor.Read.after
    dsimp only
    rw [hshown]
    rfl
  unfold step
  rw [World.showPrompt_eq hw]
  dsimp only
  rw [hworld]
  rfl

/-- **A turn for a segment**, whatever follows it. -/
theorem step_segment (hw : w.stdout.AcceptsAll) {part : Bytes} (hpart : IsSegment part)
    (more : Bytes) :
    (⟨w, some (InputEvent.ofBytes (part ++ more))⟩ : Session).step s =
      match (s.editor.alone part).ending with
      | .ok (.line line) =>
        (⟨s.afterRead w part, some (InputEvent.ofBytes more)⟩ : Session).dispatch s line
      | .ok .interrupted =>
        (⟨(s.afterRead w part).log .interrupted, some (InputEvent.ofBytes more)⟩, some .left)
      | .error failure =>
        (⟨s.afterRead w part, some (InputEvent.ofBytes more)⟩ : Session).recover failure := by
  obtain ⟨-, houtput, -⟩ := s.editor.alone_segment hpart
  refine step_of_readFrom hw (fun shown => ?_) houtput
  rw [Editor.ofBytes_append]
  exact s.editor.readFrom_segment_eq shown 0 hpart _

/-- **The turn for the remainder** is the last one. -/
theorem step_remainder (hw : w.stdout.AcceptsAll) {rest : Bytes}
    (hrest : ∀ b ∈ rest, isTerminator b = false) :
    (⟨w, some (InputEvent.ofBytes rest)⟩ : Session).step s =
      (⟨s.afterRead w rest, some []⟩, some (.readFailed .inputClosed)) := by
  obtain ⟨hending, -, hleft, houtput⟩ := s.editor.alone_remainder hrest
  have hread (shown : Bytes) :
      s.editor.readFrom (.unlimited shown) 0 (InputEvent.ofBytes rest) =
        ((s.editor.alone rest).after shown 0).leaving [] := by
    rw [Editor.readFrom_eq_after]
    show (s.editor.alone rest).after shown 0 = _
    rw [← hleft]
    rfl
  rw [step_of_readFrom hw hread houtput, hending]
  rfl

theorem step_interrupt (hw : w.stdout.AcceptsAll) {part : Bytes} (hpart : IsSegment part)
    (hlast : part.getLast? = some Bytes.interrupt) (more : Bytes) :
    (⟨w, some (InputEvent.ofBytes (part ++ more))⟩ : Session).step s =
      (⟨(s.afterRead w part).log .interrupted, some (InputEvent.ofBytes more)⟩, some .left) := by
  rw [step_segment hw hpart, s.alone_interrupt hpart hlast]

/-- How a turn goes on after a command that ended in some way. -/
def afterCommand (w : World) (keys : List InputEvent) : Except Failure Flow → Session × Option Ending
  | .ok .goOn => (⟨w, some keys⟩, none)
  | .ok .exit => (⟨w.log .exited, some keys⟩, some .left)
  | .error failure => (⟨w, some keys⟩ : Session).tell failure

theorem step_line (hw : w.stdout.AcceptsAll) {part : Bytes} (hpart : IsSegment part) {t : Turn}
    {w' : World} {ended : Except Failure Flow} (h : s.Carries w part t w' ended) (more : Bytes) :
    (⟨w, some (InputEvent.ofBytes (part ++ more))⟩ : Session).step s =
      afterCommand w' (InputEvent.ofBytes more) ended := by
  obtain ⟨line, hread, -, hrun⟩ := h.command
  rw [step_segment hw hpart, hread]
  dsimp only
  unfold dispatch Shell.executeLine
  dsimp only
  rw [hrun]
  rcases ended with failure | _ | _
  · -- the failure of a command is told, and the loop goes on
    dsimp only
    rw [if_neg (Bool.eq_false_iff.mp (World.execute_not_fatal hrun))]
    rfl
  · rfl
  · rfl

theorem run_succ_of_ends {x y : Session} {ending : Ending} (h : x.step s = (y, some ending))
    (n : Nat) : run s (n + 1) x = (y, some ending) := by rw [run, h]

theorem run_succ_of_goesOn {x y : Session} (h : x.step s = (y, none)) (n : Nat) :
    run s (n + 1) x = run s n y := by rw [run, h]

/-- **A session** goes line by line through the parts of its key stream. -/
theorem run_follows (hlaunch : s.launch.OnlyPrints) (hw : w.stdout.AcceptsAll)
    {parts : List Bytes} (hparts : ∀ part ∈ parts, IsSegment part) {rest : Bytes}
    (hrest : ∀ b ∈ rest, isTerminator b = false) :
    ∃ turns w' ending keys, Follows s rest w parts turns w' ending ∧
      ∀ n, run s (n + parts.length + 1)
          ⟨w, some (InputEvent.ofBytes (parts.flatten ++ rest))⟩ = (⟨w', keys⟩, some ending) := by
  induction parts generalizing w with
  | nil => exact ⟨_, _, _, some [], .closed w, run_succ_of_ends (step_remainder hw hrest)⟩
  | cons part parts ih =>
    have hpart := hparts part List.mem_cons_self
    have hlater : ∀ p ∈ parts, IsSegment p := fun p hp => hparts p (List.mem_cons_of_mem part hp)
    let later := InputEvent.ofBytes (parts.flatten ++ rest)
    rw [List.flatten_cons, List.append_assoc]
    by_cases hlast : part.getLast? = some Bytes.interrupt
    · have hstep := step_interrupt (s := s) hw hpart hlast (parts.flatten ++ rest)
      exact ⟨_, _, _, some later, .interrupted w parts hlast, fun n => run_succ_of_ends hstep _⟩
    obtain ⟨line, hread⟩ := s.exists_alone_line hpart hlast
    obtain ⟨t, w', ended, hturn⟩ := Shell.exists_carries hlaunch w hread
    have hstep := step_line hw hpart hturn (parts.flatten ++ rest)
    have haccepts := hturn.wrote.acceptsAll
    -- the rest of the session depends on how the command ends
    rcases ended with failure | _ | _
    · rw [afterCommand, tell_eq] at hstep
      rcases htell : w'.tellFailure failure with ⟨told, _ | cause⟩
      all_goals rw [htell] at hstep
      · have htold : told.stdout.AcceptsAll := World.told_stdout htell ▸ haccepts
        obtain ⟨turns, w'', ending, keys, hfollows, hrun⟩ := ih htold hlater
        exact ⟨_, _, _, keys, .failed hturn htell hfollows,
          fun n => (run_succ_of_goesOn hstep _).trans (hrun n)⟩
      · exact ⟨_, _, _, some later, .brokeOff parts hturn htell, fun n => run_succ_of_ends hstep _⟩
    · obtain ⟨turns, w'', ending, keys, hfollows, hrun⟩ := ih haccepts hlater
      exact ⟨_, _, _, keys, .wentOn hturn hfollows,
        fun n => (run_succ_of_goesOn hstep _).trans (hrun n)⟩
    · exact ⟨_, _, _, some later, .exited parts hturn, fun n => run_succ_of_ends hstep _⟩

end Session

/-! ## Lines as text -/

namespace Shell

/-- Carries out lines that nobody has typed, in order, up to the first that ends the shell. -/
def runLines (s : Shell) (w : World) : List Text → World × Option Ending
  | [] => (w, none)
  | line :: lines =>
    match s.executeLine w line with
    | (w, .ok .goOn) => s.runLines w lines
    | (w, .ok .exit) => (w.log .exited, some .left)
    | (w, .error failure) =>
      match w.tellFailure failure with
      | (w, none) => s.runLines w lines
      | (w, some cause) => (w, some (.messageRefused cause))

/-- Prompt and line, as they are shown while the line is typed. -/
def shownLine (s : Shell) (line : Text) : Bytes :=
  Utf8.encode (s.settings.prompt ++ line ++ Editor.lineBreak)

variable {s : Shell} {w : World} {line : Text}

theorem shownFor_typedLine (hline : line.IsPlain) :
    s.shownFor (Editor.typedLine line) = s.shownLine line := by
  obtain ⟨-, houtput, -⟩ := s.editor.alone_line hline
  unfold shownFor shownLine
  rw [houtput, List.append_assoc, Utf8.encode_append s.settings.prompt]
  rfl

/-- The log learns nothing of a line without control characters. -/
theorem afterRead_typedLine (hline : line.IsPlain) :
    s.afterRead w (Editor.typedLine line) =
      w.onto (.unlimited (w.stdout.text ++ s.shownLine line)) := by
  obtain ⟨-, -, hnotices⟩ := s.editor.alone_line hline
  unfold afterRead
  rw [hnotices, shownFor_typedLine hline]
  rfl

/-- **A typed line** does what it does as text, on any standard output. -/
theorem Carries.executeLine_eq (hlaunch : s.launch.OnlyPrints) (hline : line.IsPlain) {t : Turn}
    {w' : World} {ended : Except Failure Flow}
    (h : s.Carries w (Editor.typedLine line) t w' ended) {o : Output} (ho : o.AcceptsAll) :
    ∃ o', o.Grows o' t.wrote ∧ s.executeLine (w.onto o) line = (w'.onto o', ended) := by
  obtain ⟨line', hread, -, hrun⟩ := h.command
  cases (s.editor.alone_line hline).1.symm.trans hread
  obtain ⟨wrote, hgrows, hsame⟩ :=
    World.prints_execute hlaunch s.settings (Command.ofLine line) _ (s.afterRead_acceptsAll w _)
  obtain ⟨o', ho', heq⟩ := hsame o ho
  unfold execute at hrun
  dsimp only at hgrows heq
  rw [hrun] at hgrows heq
  -- without prompt and echo, the world before the command is the one that nobody has typed in
  have hwrote : wrote = t.wrote := List.append_cancel_left (hgrows.text.symm.trans h.wrote.text)
  rw [afterRead_typedLine hline, World.onto_onto] at heq
  exact ⟨o', hwrote ▸ ho', heq⟩

end Shell

/-- **Typed lines** do what they do as text, but for what prompt and editor show. -/
theorem Follows.runLines_eq {s : Shell} (hlaunch : s.launch.OnlyPrints) {lines : List Text}
    (hlines : ∀ line ∈ lines, line.IsPlain) {w w' : World} {turns : List Turn} {ending : Ending}
    (h : Follows s [] w (lines.map Editor.typedLine) turns w' ending) {o : Output}
    (ho : o.AcceptsAll) :
    (s.runLines (w.onto o) lines).1.onto w'.stdout = w' ∧
      (s.runLines (w.onto o) lines).2.getD (.readFailed .inputClosed) = ending ∧
      (s.runLines (w.onto o) lines).1.stdout.text = o.text ++ turns.flatMap Turn.wrote ∧
      turns.map Turn.shown <+: lines.map s.shownLine ++ [Utf8.encode s.settings.prompt] := by
  induction lines generalizing w turns o with
  | nil =>
    cases h
    refine ⟨rfl, rfl, (List.append_nil _).symm, ?_⟩
    show [Utf8.encode s.settings.prompt ++ []] <+: _
    rw [List.append_nil]
    exact List.prefix_rfl
  | cons line lines ih =>
    have hline := hlines line List.mem_cons_self
    have hlater : ∀ l ∈ lines, l.IsPlain := fun l hl => hlines l (List.mem_cons_of_mem line hl)
    cases h with
    | interrupted _ _ hlast =>
      rw [Editor.typedLine, List.getLast?_concat] at hlast
      cases hlast
    | exited _ hturn =>
      obtain ⟨o', ho', hrun⟩ := hturn.executeLine_eq hlaunch hline ho
      have hfirst := hturn.shown.trans (Shell.shownFor_typedLine hline)
      rw [Shell.runLines, hrun]
      dsimp only
      rw [World.log_onto]
      refine ⟨?_, rfl, ?_, List.cons_prefix_cons.mpr ⟨hfirst, List.nil_prefix⟩⟩
      · rw [World.onto_onto, World.onto_self]
      · rw [List.flatMap_singleton]
        exact ho'.text
    | wentOn hturn hnext =>
      obtain ⟨o', ho', hrun⟩ := hturn.executeLine_eq hlaunch hline ho
      obtain ⟨hworld, hending, htext, hshown⟩ := ih hlater hnext ho'.acceptsAll
      have hfirst := hturn.shown.trans (Shell.shownFor_typedLine hline)
      rw [Shell.runLines, hrun]
      refine ⟨hworld, hending, ?_, List.cons_prefix_cons.mpr ⟨hfirst, hshown⟩⟩
      rw [List.flatMap_cons, ← List.append_assoc, ← ho'.text]
      exact htext
    | failed hturn htold hnext =>
      obtain ⟨o', ho', hrun⟩ := hturn.executeLine_eq hlaunch hline ho
      obtain ⟨hworld, hending, htext, hshown⟩ := ih hlater hnext ho'.acceptsAll
      have hfirst := hturn.shown.trans (Shell.shownFor_typedLine hline)
      rw [Shell.runLines, hrun]
      dsimp only
      rw [World.tellFailure_onto, htold]
      refine ⟨hworld, hending, ?_, List.cons_prefix_cons.mpr ⟨hfirst, hshown⟩⟩
      rw [List.flatMap_cons, ← List.append_assoc, ← ho'.text]
      exact htext
    | brokeOff _ hturn hrefused =>
      obtain ⟨o', ho', hrun⟩ := hturn.executeLine_eq hlaunch hline ho
      have hfirst := hturn.shown.trans (Shell.shownFor_typedLine hline)
      rw [Shell.runLines, hrun]
      dsimp only
      rw [World.tellFailure_onto, hrefused]
      refine ⟨?_, rfl, ?_, List.cons_prefix_cons.mpr ⟨hfirst, List.nil_prefix⟩⟩
      · rw [World.onto_onto, World.onto_self]
      · rw [List.flatMap_singleton]
        exact ho'.text

/-- The session of somebody who types these lines in a world. -/
def Session.typing (w : World) (lines : List Text) : Session :=
  ⟨w, some (InputEvent.ofBytes (lines.flatMap Editor.typedLine))⟩

/-! ## Summary -/

/-- **A session carries out the lines that are typed.** The key stream is cut at its terminators, and
    what its parts are read as is carried out line by line, in the only way that there is; then the
    loop ends, with status 0 or, at the end of the input, 1. The standard output gets what prompt and
    editor show and what the commands write, turn by turn. No command is fatal in its failure. Lines
    without control characters do what they do as text: all of the world but its standard output is the
    same then, and what the commands write there.

    A failure that cannot be told on the standard error breaks the loop off, with status 101. That does
    not happen on a standard error that accepts everything, as long as programs leave it so. The keys are
    those that come to the shell itself: programs end, and take none. -/
theorem session_carries_out (s : Shell) (hlaunch : s.launch.OnlyPrints) (w : World)
    (hw : w.stdout.AcceptsAll) :
    (∀ bs : Bytes, ∃ turns w' ending keys,
        (∀ n, (segments bs).length < n →
          Session.run s n ⟨w, some (InputEvent.ofBytes bs)⟩ = (⟨w', keys⟩, some ending)) ∧
        Follows s (remainder bs) w (segments bs) turns w' ending ∧
        (∀ turns₂ w₂ ending₂, Follows s (remainder bs) w (segments bs) turns₂ w₂ ending₂ →
          turns₂ = turns ∧ w₂ = w' ∧ ending₂ = ending) ∧
        w'.stdout.text = w.stdout.text ++ turns.flatMap Turn.text ∧
        (ending = .left ∧ ending.status = 0 ∨
          ending = .readFailed .inputClosed ∧ ending.status = 1 ∨
          (∃ cause, ending = .messageRefused cause) ∧ ending.status = 101 ∧
            ¬ (w.stderr.AcceptsAll ∧ s.launch.KeepsErr))) ∧
      (∀ (launch : Launcher) (settings : Settings) (v v' : World) (c : Command) (failure : Failure),
        v.execute launch settings c = (v', .error failure) → failure.isFatal = false) ∧
      ∀ lines : List Text, (∀ line ∈ lines, line.IsPlain) →
        ∃ (turns : List Turn) (w' : World) (ending : Ending) (keys : Option (List InputEvent)),
        (∀ n, lines.length < n →
          Session.run s n (.typing w lines) = (⟨w', keys⟩, some ending)) ∧
        Follows s [] w (lines.map Editor.typedLine) turns w' ending ∧
        (s.runLines w lines).1.onto w'.stdout = w' ∧
        (s.runLines w lines).2.getD (.readFailed .inputClosed) = ending ∧
        (s.runLines w lines).1.stdout.text = w.stdout.text ++ turns.flatMap Turn.wrote ∧
        w'.stdout.text = w.stdout.text ++ turns.flatMap Turn.text ∧
        turns.map Turn.shown <+: lines.map s.shownLine ++ [Utf8.encode s.settings.prompt] := by
  have hrun (bs : Bytes) : ∃ turns w' ending keys,
      Follows s (remainder bs) w (segments bs) turns w' ending ∧
        ∀ n, (segments bs).length < n →
          Session.run s n ⟨w, some (InputEvent.ofBytes bs)⟩ = (⟨w', keys⟩, some ending) := by
    obtain ⟨turns, w', ending, keys, hfollows, hrun⟩ :=
      Session.run_follows hlaunch hw (fun _ h => Bytes.isSegment_of_mem h)
        (fun b (h : b ∈ remainder bs) => Bytes.not_isTerminator_of_mem h)
    rw [Bytes.flatten_segments] at hrun
    refine ⟨turns, w', ending, keys, hfollows, ?_⟩
    intro n hn
    obtain ⟨k, rfl⟩ := Nat.exists_eq_add_of_lt hn
    rw [Nat.add_comm (segments bs).length k]
    exact hrun k
  refine ⟨?_, fun _ _ _ _ _ _ => World.execute_not_fatal, ?_⟩
  · intro bs
    obtain ⟨turns, w', ending, keys, hfollows, hrun⟩ := hrun bs
    have hunique {turns₂ w₂ ending₂}
        (h : Follows s (remainder bs) w (segments bs) turns₂ w₂ ending₂) :=
      h.unique (fun _ h => Bytes.isSegment_of_mem h) hfollows
    refine ⟨turns, w', ending, keys, hrun, hfollows, fun _ _ _ => hunique, hfollows.text, ?_⟩
    rcases hfollows.ending_eq with rfl | rfl | ⟨cause, rfl⟩
    · exact .inl ⟨rfl, rfl⟩
    · exact .inr (.inl ⟨rfl, rfl⟩)
    · refine .inr (.inr ⟨⟨cause, rfl⟩, rfl, ?_⟩)
      rintro ⟨herr, hkeeps⟩
      exact hfollows.not_refused hkeeps herr cause rfl
  · intro lines hlines
    obtain ⟨turns, w', ending, keys, hfollows, hrun⟩ := hrun (lines.flatMap Editor.typedLine)
    -- the key stream is cut into the lines again
    have hcut : Bytes.cut (lines.flatMap Editor.typedLine) = (lines.map Editor.typedLine, []) := by
      have hsegments : ∀ part ∈ lines.map Editor.typedLine, IsSegment part := by
        intro part hpart
        obtain ⟨line, hline, rfl⟩ := List.mem_map.mp hpart
        exact Editor.isSegment_typedLine (hlines line hline)
      have hnone : ∀ b ∈ ([] : Bytes), isTerminator b = false :=
        fun b hb => absurd hb List.not_mem_nil
      have h := Bytes.cut_flatten hsegments hnone
      rwa [List.append_nil, ← List.flatMap_def] at h
    unfold segments remainder at hfollows
    unfold segments at hrun
    rw [hcut] at hfollows hrun
    rw [List.length_map] at hrun
    obtain ⟨hworld, hending, htext, hshown⟩ := hfollows.runLines_eq hlaunch hlines hw
    exact ⟨turns, w', ending, keys, hrun, hfollows, hworld, hending, htext, hfollows.text, hshown⟩

/-- A shell without variables, where no program can be started. -/
def Shell.bare : Shell := ⟨.ofEnvironment [], .ofNames [], fun _ _ => .error .noEntry⟩

/-- A shell with one program, which prints a word. -/
def Shell.greeting : Shell :=
  { Shell.bare with
    launch := .printing [(Utf8.encode "./hi".toList, Utf8.encode "hello\n".toList)] }

/-- A world without files. -/
def World.bare : World := { files := .empty, workDir := .root }

/-- A program that is not there, one that prints, the end of the shell, and a line that is never carried
    out. -/
def failAndExit : List Text := ["./x".toList, "./hi".toList, "exit".toList, "pwd".toList]

/-- Four lines in a world without files, of which the third ends the shell. -/
theorem session_carries_out_failAndExit :
    Shell.greeting.launch.OnlyPrints ∧ Shell.greeting.launch.KeepsErr ∧
      World.bare.stdout.AcceptsAll ∧ World.bare.stderr.AcceptsAll ∧
      (∀ line ∈ failAndExit, line.IsPlain) ∧
      ∃ turns w' keys,
        Session.run .greeting 5 (.typing .bare failAndExit) = (⟨w', keys⟩, some .left) ∧
        w'.stdout.text = Utf8.encode "$ ./x\r\n$ ./hi\r\nhello\n$ exit\r\n".toList ∧
        w'.stderr.text = Utf8.encode "./x: command not found\n".toList ∧
        Follows .greeting [] .bare (failAndExit.map Editor.typedLine) turns w' .left ∧
        (Shell.greeting.runLines .bare failAndExit).1.onto w'.stdout = w' := by
  have hlaunch : Shell.greeting.launch.OnlyPrints := Launcher.onlyPrints_printing _
  have hkeeps : Shell.greeting.launch.KeepsErr := Launcher.keepsErr_printing _
  have hw : World.bare.stdout.AcceptsAll := ⟨rfl, rfl⟩
  have hlines : ∀ line ∈ failAndExit, line.IsPlain := by decide
  have hending : (Session.run .greeting 5 (.typing .bare failAndExit)).2 = some .left := by rfl
  have hout : (Session.run .greeting 5 (.typing .bare failAndExit)).1.world.stdout.text =
      Utf8.encode "$ ./x\r\n$ ./hi\r\nhello\n$ exit\r\n".toList := by rfl
  have herr : (Session.run .greeting 5 (.typing .bare failAndExit)).1.world.stderr.text =
      Utf8.encode "./x: command not found\n".toList := by rfl
  obtain ⟨-, -, htyped⟩ := session_carries_out .greeting hlaunch .bare hw
  obtain ⟨turns, w', ending, keys, hrun, hfollows, hworld, -⟩ := htyped failAndExit hlines
  have hfinal := hrun 5 (by decide)
  rw [hfinal] at hending hout herr
  cases hending
  exact ⟨hlaunch, hkeeps, hw, ⟨rfl, rfl⟩, hlines, turns, w', keys, hfinal, hout, herr, hfollows, hworld⟩

end CommandShell
