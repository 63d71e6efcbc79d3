import CommandShell.Proofs.World.Printing
import CommandShell.Proofs.World.Writing

/-!
# `CommandShell.Proofs.Shell.Messages` — whether a failure can be told

A failure that does not end the shell is told on the standard error, and a shell that cannot tell it breaks
off. A standard error that accepts everything takes every message, and whatever the shell does, it accepts
everything afterwards too. Only a program could change that.

## Contents
- **Messages.** `tellFailure_eq` and `Session.tell_eq`; `Session.tell_of_acceptsAll` and
  `Session.tell_ending` for the two outcomes.
- **Standard error.** `World.KeepsErr`, of a world and a later one, and `Launcher.KeepsErr`, of programs;
  `keepsErr_execute` for a command.
-/

namespace CommandShell

/-! ## Messages -/

namespace World

/-- The line that tells a failure. -/
def messageLine (failure : Failure) : Bytes := Utf8.encode (failure.message ++ ['\n'])

/-- A failure is told on the standard error, and nothing else happens. -/
theorem tellFailure_eq (w : World) (failure : Failure) :
    w.tellFailure failure =
      ({ w with stderr := (w.stderr.write (messageLine failure)).1 },
        (w.stderr.write (messageLine failure)).2) := rfl

theorem tellFailure_onto (w : World) (o : Output) (failure : Failure) :
    (w.onto o).tellFailure failure =
      ((w.tellFailure failure).1.onto o, (w.tellFailure failure).2) := rfl

variable {w told : World} {failure : Failure} {fault : Option Fault}

/-- The standard output has no part in it. -/
theorem told_stdout (htold : w.tellFailure failure = (told, fault)) : told.stdout = w.stdout := by
  rw [tellFailure_eq] at htold
  cases htold
  rfl

/-- **A standard error that accepts everything** takes the message, and accepts everything still. -/
theorem told_of_acceptsAll (h : w.stderr.AcceptsAll) (htold : w.tellFailure failure = (told, fault)) :
    fault = none ∧ told.stderr.AcceptsAll := by
  rw [tellFailure_eq, h.write_eq] at htold
  cases htold
  exact ⟨rfl, ⟨h.writes, h.flushes⟩⟩

end World

namespace Session

variable {x : Session} {failure : Failure} {ending : Ending}

theorem tell_eq (x : Session) (failure : Failure) :
    x.tell failure =
      (x.moveTo (x.world.tellFailure failure).1,
        (x.world.tellFailure failure).2.map .messageRefused) := by
  unfold tell
  rcases x.world.tellFailure failure with ⟨w, _ | cause⟩ <;> rfl

theorem tell_keys (x : Session) (failure : Failure) : (x.tell failure).1.keys = x.keys := by
  rw [tell_eq]
  rfl

theorem tell_stdout (x : Session) (failure : Failure) :
    (x.tell failure).1.world.stdout = x.world.stdout := by
  rw [tell_eq]
  rfl

/-- **The loop goes on** after a failure, if the standard error accepts everything. -/
theorem tell_of_acceptsAll (h : x.world.stderr.AcceptsAll) (failure : Failure) :
    (x.tell failure).2 = none ∧ (x.tell failure).1.world.stderr.AcceptsAll := by
  obtain ⟨hnone, haccepts⟩ := World.told_of_acceptsAll h (Prod.eta (x.world.tellFailure failure)).symm
  rw [tell_eq, hnone]
  exact ⟨rfl, haccepts⟩

/-- **The shell breaks off** only if the message is refused. -/
theorem tell_ending (h : (x.tell failure).2 = some ending) :
    (∃ cause, ending = .messageRefused cause) ∧ ¬ x.world.stderr.AcceptsAll := by
  constructor
  · rw [tell_eq] at h
    obtain ⟨cause, -, heq⟩ := Option.map_eq_some_iff.mp h
    exact ⟨cause, heq.symm⟩
  · intro haccepts
    cases (tell_of_acceptsAll haccepts failure).1.symm.trans h

end Session

/-! ## Standard error -/

namespace World

/-- If the standard error accepts everything in `w`, it does in `w'`. -/
def KeepsErr (w w' : World) : Prop := w.stderr.AcceptsAll → w'.stderr.AcceptsAll

end World

/-- Programs leave a standard error alone that accepts everything. -/
def Launcher.KeepsErr (launch : Launcher) : Prop :=
  ∀ (w w' : World) (l : Launch) (status : ExitStatus), launch w l = .ok (w', status) → w.KeepsErr w'

namespace World

variable {w w' w'' : World}

theorem KeepsErr.refl (w : World) : w.KeepsErr w := id

theorem KeepsErr.trans (h : w.KeepsErr w') (h' : w'.KeepsErr w'') : w.KeepsErr w'' := h' ∘ h

@[simp] theorem log_stderr (w : World) (e : Event) : (w.log e).stderr = w.stderr := by
  unfold log
  split
  · rfl
  · split <;> rfl

@[simp] theorem logAll_stderr (w : World) (events : List Event) :
    (w.logAll events).stderr = w.stderr := by
  unfold logAll
  induction events generalizing w with
  | nil => rfl
  | cons e events ih => rw [List.foldl_cons, ih, log_stderr]

theorem keepsErr_log (w : World) (e : Event) : w.KeepsErr (w.log e) := by
  unfold KeepsErr
  rw [log_stderr]
  exact id

theorem keepsErr_write (w : World) (sink : Sink) (bs : Bytes) : w.KeepsErr (w.write sink bs).1 := by
  rcases sink with (_ | _) | h
  · exact .refl w
  · exact fun haccepts => (haccepts.grows_write bs).acceptsAll
  · exact .refl w

theorem keepsErr_flush (w : World) (sink : Sink) : w.KeepsErr (w.flush sink).1 := by
  rcases sink with (_ | _) | h
  · exact .refl w
  · exact fun haccepts => haccepts.grows_flush.acceptsAll
  · exact .refl w

theorem keepsErr_openSink {stream : Stream} {target : Option Path} {append : Bool} {sink : Sink}
    (h : w.openSink stream target append = .ok (w', sink)) : w.KeepsErr w' := by
  unfold openSink at h
  split at h
  · cases h
    exact .refl w
  · split at h
    · cases h
      exact .refl w
    · cases h

theorem keepsErr_openStreams (w : World) (c : Command) : w.KeepsErr (w.openStreams c).1 := by
  unfold openStreams
  split
  · exact .refl w
  · next hout =>
    split
    · exact keepsErr_openSink hout
    · next herr => exact (keepsErr_openSink hout).trans (keepsErr_openSink herr)

theorem keepsErr_deliver (w : World) (r : Report) (out err : Sink) :
    w.KeepsErr (w.deliver r out err).1 := by
  have hmoved : w.KeepsErr (w.deliverAt r) := by
    unfold deliverAt
    cases r.event with
    | none => exact .refl w
    | some event => exact keepsErr_log { w with workDir := r.workDir } event
  have hwritten : (w.deliverAt r).KeepsErr (w.deliver r out err).1 :=
    writeBoth_steps (P := fun _ => True) (fun h h' => h.trans h')
      (fun w sink bs _ => ⟨keepsErr_write w sink bs, trivial⟩) (fun w sink _ => keepsErr_flush w sink)
      trivial trivial _ _ _
  exact hmoved.trans hwritten

variable {launch : Launcher}

theorem keepsErr_launchWith (hlaunch : launch.KeepsErr) (w : World) (l : Launch) :
    w.KeepsErr (launchWith launch w l).1 := by
  unfold launchWith
  split
  · exact keepsErr_log w _
  · next hstart =>
    have hafter := hlaunch _ _ _ _ hstart
    dsimp only
    split
    · exact hafter
    · exact hafter.trans (keepsErr_log _ _)

/-- **A command** leaves a standard error alone that accepts everything. -/
theorem keepsErr_execute (hlaunch : launch.KeepsErr) (settings : Settings) (w : World) (c : Command) :
    w.KeepsErr (w.execute launch settings c).1 := by
  unfold execute
  split
  · exact .refl w
  have hopened := (keepsErr_log w (.dispatched c)).trans (keepsErr_openStreams _ c)
  split
  · next hrefused =>
    rw [hrefused] at hopened
    exact hopened.trans (keepsErr_log _ _)
  · next hok =>
    rw [hok] at hopened
    unfold perform
    split
    · exact hopened.trans (keepsErr_deliver _ _ _ _)
    · exact hopened.trans (keepsErr_launchWith hlaunch _ _)
    · exact hopened

end World

theorem Launcher.keepsErr_printing (programs : List (Path × Bytes)) : (printing programs).KeepsErr := by
  intro w w' l status h
  unfold printing at h
  split at h
  · cases h
  · next text _ =>
    cases h
    exact World.keepsErr_write w l.out text

end CommandShell
