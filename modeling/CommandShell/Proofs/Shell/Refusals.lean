import CommandShell.Proofs.World.Opening
import CommandShell.World.Standard

/-!
# `CommandShell.Proofs.Shell.Refusals` — what a command that fails leaves behind

A command fails before it has done anything of its own in two ways: a target of it cannot be opened, or
nothing is found to run. Either way, all that is left of it is the targets that were opened before, and
lines in the log.

## Contents
- **Outcomes.** `perform_outcome`: what a command can end in once its streams are open.
- **Refusals.** `execute_redirect_iff` says which commands are refused, and `execute_of_notFound` what is
  left of one that is not found.
- **Summary.** `failed_command_leaves`.
-/

namespace CommandShell

namespace World

variable {launch : Launcher} {settings : Settings} {w : World} {c : Command}

/-! ## Outcomes -/

/-- **A command whose streams are open** goes well, or a text of it cannot be written, or it is not found
    and has done nothing, but that a program was tried perhaps. -/
theorem perform_outcome (launch : Launcher) (settings : Settings) (w : World) (name : Text)
    (args : List Text) (out err : Sink) :
    let ended := w.perform launch settings name args out err
    (∃ flow, ended.2 = .ok flow) ∨ (∃ fault, ended.2 = .error (.io fault)) ∨
      ended.2 = .error (.commandNotFound name) ∧ w.OnlyLogged ended.1 := by
  intro ended
  unfold ended perform
  split
  · next b hroute =>
    -- a builtin is always found
    unfold deliver Report.outcome
    dsimp only
    split
    · next fault hfault => exact .inr (.inl ⟨fault, rfl⟩)
    · exact .inl ⟨_, rfl⟩
  · next program hroute =>
    unfold launchWith
    dsimp only
    cases launch w ⟨program, name, args, out, err⟩ with
    | error cause => exact .inr (.inr ⟨rfl, onlyLogged_log w _⟩)
    | ok ended => exact .inl ⟨.goOn, rfl⟩
  · exact .inr (.inr ⟨rfl, .refl w⟩)

/-! ## Refusals -/

/-- **A command is refused** just if one of its targets cannot be opened, the standard error after the
    standard output. -/
theorem execute_redirect_iff (launch : Launcher) (settings : Settings) (w : World) (c : Command) :
    (∃ path cause, (w.execute launch settings c).2 = .error (.redirect path cause)) ↔
      c.name ≠ [] ∧ (w.canOpen c.stdout = false ∨
        (w.openTarget c.stdout c.append).canOpen c.stderr = false) := by
  by_cases hname : c.name = []
  · rw [execute_of_no_name hname]
    constructor
    · rintro ⟨path, cause, h⟩
      cases h
    · rintro ⟨hne, -⟩
      exact absurd hname hne
  cases hout : w.canOpen c.stdout with
  | false =>
    obtain ⟨path, cause, -, hexecute⟩ := execute_of_stdout_refused hname hout
    exact ⟨fun _ => ⟨hname, .inl rfl⟩, fun _ => ⟨path, cause, by rw [hexecute]⟩⟩
  | true =>
    cases herr : (w.openTarget c.stdout c.append).canOpen c.stderr with
    | false =>
      obtain ⟨path, cause, -, hexecute⟩ := execute_of_stderr_refused hname hout herr
      exact ⟨fun _ => ⟨hname, .inr rfl⟩, fun _ => ⟨path, cause, by rw [hexecute]⟩⟩
    | true =>
      rw [execute_of_opened hname hout herr]
      constructor
      · rintro ⟨path, cause, h⟩
        rcases perform_outcome launch settings _ c.name c.args _ _ with
          ⟨flow, hok⟩ | ⟨fault, hio⟩ | ⟨hnotFound, -⟩
        · cases h.symm.trans hok
        · cases h.symm.trans hio
        · cases h.symm.trans hnotFound
      · rintro ⟨-, h | h⟩ <;> cases h

/-- **A command that is not found** leaves its opened targets. -/
theorem execute_of_notFound {name : Text}
    (h : (w.execute launch settings c).2 = .error (.commandNotFound name)) :
    name = c.name ∧ w.canOpen c.stdout = true ∧
      (w.openTarget c.stdout c.append).canOpen c.stderr = true ∧
      ((w.openTarget c.stdout c.append).openTarget c.stderr c.append).OnlyLogged
        (w.execute launch settings c).1 := by
  by_cases hname : c.name = []
  · rw [execute_of_no_name hname] at h
    cases h
  cases hout : w.canOpen c.stdout with
  | false =>
    obtain ⟨path, cause, -, hexecute⟩ := execute_of_stdout_refused hname hout
    rw [hexecute] at h
    cases h
  | true =>
    cases herr : (w.openTarget c.stdout c.append).canOpen c.stderr with
    | false =>
      obtain ⟨path, cause, -, hexecute⟩ := execute_of_stderr_refused hname hout herr
      rw [hexecute] at h
      cases h
    | true =>
      rw [execute_of_opened hname hout herr] at h ⊢
      have hlog := onlyLogged_log w (.dispatched c)
      rcases perform_outcome launch settings _ c.name c.args _ _ with
        ⟨flow, hok⟩ | ⟨fault, hio⟩ | ⟨hnotFound, hlogged⟩
      · cases h.symm.trans hok
      · cases h.symm.trans hio
      · cases h.symm.trans hnotFound
        exact ⟨rfl, rfl, rfl, ((hlog.openTarget _ _).openTarget _ _).trans hlogged⟩

end World

/-! ## Summary -/

/-- **What a failed command leaves.** A command is refused just if it has a name and a target that cannot
    be opened. Then neither a builtin nor a program has run: the world is the same whatever the launcher
    and the settings. If the standard output was refused, nothing has happened; if the standard error was,
    the target of the standard output has been opened. A command that is not found leaves both its
    targets opened; that includes one whose program the launcher could not start, since a fault of the
    launcher leaves the world as it was. Apart from that, there may be more in the log. -/
theorem failed_command_leaves (w : World) (c : Command) :
    let afterOut := w.openTarget c.stdout c.append
    let afterBoth := afterOut.openTarget c.stderr c.append
    (∀ launch settings,
      (∃ path cause, (w.execute launch settings c).2 = .error (.redirect path cause)) ↔
        c.name ≠ [] ∧ (w.canOpen c.stdout = false ∨ afterOut.canOpen c.stderr = false)) ∧
    (c.name ≠ [] → w.canOpen c.stdout = false →
      ∃ w' path cause, c.stdout = some path ∧ w.OnlyLogged w' ∧
        ∀ launch settings, w.execute launch settings c = (w', .error (.redirect path cause))) ∧
    (c.name ≠ [] → w.canOpen c.stdout = true → afterOut.canOpen c.stderr = false →
      ∃ w' path cause, c.stderr = some path ∧ afterOut.OnlyLogged w' ∧
        ∀ launch settings, w.execute launch settings c = (w', .error (.redirect path cause))) ∧
    (∀ launch settings name, (w.execute launch settings c).2 = .error (.commandNotFound name) →
      name = c.name ∧ w.canOpen c.stdout = true ∧ afterOut.canOpen c.stderr = true ∧
        afterBoth.OnlyLogged (w.execute launch settings c).1) := by
  intro afterOut afterBoth
  have hlog := World.onlyLogged_log w (.dispatched c)
  refine ⟨fun launch settings => World.execute_redirect_iff launch settings w c, ?_, ?_, ?_⟩
  · intro hname hout
    obtain ⟨path, cause, htarget, hexecute⟩ := World.execute_of_stdout_refused hname hout
    exact ⟨_, path, cause, htarget, hlog.trans (World.onlyLogged_log _ _), hexecute⟩
  · intro hname hout herr
    obtain ⟨path, cause, htarget, hexecute⟩ := World.execute_of_stderr_refused hname hout herr
    exact ⟨_, path, cause, htarget, (hlog.openTarget _ _).trans (World.onlyLogged_log _ _), hexecute⟩
  · intro launch settings name h
    exact World.execute_of_notFound h

/-- A world with a file of some mode and a directory, and without a log. -/
def World.fileAndDirectory (mode : Mode) : World where
  files := (FileSystem.empty.place "/old" (.file (Utf8.encode "old".toList) mode)).place "/dir"
    (.directory true)
  workDir := .root

/-- A target for the standard output is emptied, though the standard error is refused and the command
    does not run: the working directory stays, and so does the shell. -/
theorem failed_command_leaves_emptied :
    let w := World.fileAndDirectory .ordinary
    let file := Utf8.encode "old".toList
    let dir := Utf8.encode "dir".toList
    let c : Command :=
      { name := "cd".toList, args := ["dir".toList], stdout := some file, stderr := some dir }
    c.name ≠ [] ∧ w.canOpen c.stdout = true ∧ (w.openTarget (some file) false).canOpen (some dir) = false ∧
      w.openTarget (some file) false ≠ w ∧
      ∃ cause, ∀ launch settings, w.execute launch settings c =
        (w.openTarget (some file) false, .error (.redirect dir cause)) := by
  intro w file dir c
  have hname : c.name ≠ [] := by decide
  have hout : w.canOpen c.stdout = true := by decide +kernel
  have herr : (w.openTarget (some file) false).canOpen (some dir) = false := by decide +kernel
  obtain ⟨-, -, hrefused, -⟩ := failed_command_leaves w c
  obtain ⟨w', path, cause, htarget, hlogged, hexecute⟩ := hrefused hname hout herr
  refine ⟨hname, hout, herr, by decide +kernel, cause, ?_⟩
  obtain rfl : path = dir := (Option.some.inj htarget).symm
  -- without a log, there is no change at all
  rw [← hlogged.off rfl]
  exact hexecute

/-- A world with an empty log that takes warnings. -/
def World.warned : World where
  files := FileSystem.empty.place "/log" (.file [] .ordinary)
  workDir := .root
  logger := (Location.ofPath? (Utf8.encode "/log".toList)).map fun l => ⟨l, .warn⟩

/-- With a log, a refused command does leave something: a warning. -/
theorem refused_command_warns :
    let launch : Launcher := fun _ _ => .error .noEntry
    let settings : Settings := .ofEnvironment []
    let c : Command := { name := "echo".toList, stdout := some (Utf8.encode "missing/out".toList) }
    let after := World.warned.execute launch settings c
    World.warned.canOpen c.stdout = false ∧
      (∃ path cause, after.2 = .error (.redirect path cause)) ∧
      after.1.files ≠ World.warned.files := by
  intro launch settings c after
  have hname : c.name ≠ [] := by decide
  have hout : World.warned.canOpen c.stdout = false := by decide +kernel
  have hfiles : after.1.files ≠ World.warned.files := by decide +kernel
  exact ⟨hout, (World.execute_redirect_iff launch settings _ c).mpr ⟨hname, .inl hout⟩, hfiles⟩

end CommandShell
