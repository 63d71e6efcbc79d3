import CommandShell.Proofs.Output
import CommandShell.Shell.Loop

/-!
# `CommandShell.Proofs.World.Printing` — what is printed is only added

Nothing in the shell reads what stands on its standard output. An action that prints adds a text to
it, the same text whatever was printed before, and everything else that it does is the same too.

## Contents
- **Actions.** `World.Prints`, with `pure`, `bind` and `choose` to put actions together, and `ignores`
  for those that leave the standard output alone.
- **Programs.** `Launcher.OnlyPrints`: programs cannot read back what stands on the terminal. It holds of
  `Launcher.printing`, programs that write a text and end.
- **Commands.** `prints_perform` for a route, `prints_execute` for the whole of a command.
-/

namespace CommandShell

namespace World

/-! ## Actions -/

/-- The world with another standard output. -/
def onto (w : World) (o : Output) : World := { w with stdout := o }

@[simp] theorem onto_stdout (w : World) (o : Output) : (w.onto o).stdout = o := rfl

@[simp] theorem onto_onto (w : World) (o o' : Output) : (w.onto o).onto o' = w.onto o' := rfl

@[simp] theorem onto_self (w : World) : w.onto w.stdout = w := rfl

variable {α β : Type}

/-- An action that adds a text to a standard output that accepts everything. On any other standard
    output it adds the same text, and does the same otherwise. -/
def Prints (f : World → World × α) : Prop :=
  ∀ w, w.stdout.AcceptsAll → ∃ bs, w.stdout.Grows (f w).1.stdout bs ∧
    ∀ o : Output, o.AcceptsAll → ∃ o', o.Grows o' bs ∧
      f (w.onto o) = ((f w).1.onto o', (f w).2)

/-- To do nothing prints nothing. -/
theorem Prints.pure (a : α) : Prints fun w => (w, a) := fun _ hw =>
  ⟨[], .refl hw, fun o ho => ⟨o, .refl ho, rfl⟩⟩

/-- Two actions, of which the second depends on how the first ended. -/
theorem Prints.bind {f : World → World × α} {g : α → World → World × β} {F : World → World × β}
    (hf : Prints f) (hg : ∀ a, Prints (g a)) (hF : ∀ w, F w = g (f w).2 (f w).1) : Prints F := by
  intro w hw
  obtain ⟨bs, hgrows, hsame⟩ := hf w hw
  obtain ⟨bs', hgrows', hsame'⟩ := hg (f w).2 (f w).1 hgrows.acceptsAll
  refine ⟨bs ++ bs', by rw [hF]; exact hgrows.trans hgrows', ?_⟩
  intro o ho
  obtain ⟨o', ho', heq⟩ := hsame o ho
  obtain ⟨o'', ho'', heq'⟩ := hsame' o' ho'.acceptsAll
  refine ⟨o'', ho'.trans ho'', ?_⟩
  rw [hF, hF, heq, heq']

/-- Two actions, of which the second is not taken if the first fails. -/
theorem Prints.andThen {ε : Type} {f : World → World × Except ε α}
    {g : α → World → World × Except ε β} {F : World → World × Except ε β} (hf : Prints f)
    (hg : ∀ a, Prints (g a))
    (hF : ∀ w, F w = match f w with
      | (w, .error e) => (w, .error e)
      | (w, .ok a) => g a w) : Prints F := by
  refine hf.bind (g := fun ended w => match ended with
    | .error e => (w, .error e)
    | .ok a => g a w) ?_ ?_
  · rintro (e | a)
    · exact .pure _
    · exact hg a
  · intro w
    rw [hF]
    rcases f w with ⟨w, e | a⟩ <;> rfl

/-- An action that is chosen by something else than the standard output. -/
theorem Prints.choose {γ : Type} (look : World → γ) {g : γ → World → World × β}
    {F : World → World × β} (hlook : ∀ w o, look (w.onto o) = look w) (hg : ∀ c, Prints (g c))
    (hF : ∀ w, F w = g (look w) w) : Prints F := by
  intro w hw
  obtain ⟨bs, hgrows, hsame⟩ := hg (look w) w hw
  refine ⟨bs, by rw [hF]; exact hgrows, ?_⟩
  intro o ho
  obtain ⟨o', ho', heq⟩ := hsame o ho
  exact ⟨o', ho', by rw [hF, hF, hlook, heq]⟩

/-- An action that leaves the standard output alone prints nothing. -/
theorem Prints.ignores {f : World → World × α}
    (h : ∀ w o, f (w.onto o) = ((f w).1.onto o, (f w).2)) : Prints f := by
  intro w hw
  have hself : (f w).1.stdout = w.stdout := by
    conv => lhs; rw [← onto_self w, h]
    rfl
  refine ⟨[], by rw [hself]; exact .refl hw, ?_⟩
  intro o ho
  exact ⟨o, .refl ho, h w o⟩

/-! ## Sinks and the log -/

theorem log_onto (w : World) (o : Output) (e : Event) : (w.onto o).log e = (w.log e).onto o := by
  unfold log
  rw [show (w.onto o).logger = w.logger from rfl]
  split
  · rfl
  · split <;> rfl

@[simp] theorem log_stdout (w : World) (e : Event) : (w.log e).stdout = w.stdout := by
  show ((w.onto w.stdout).log e).stdout = w.stdout
  rw [log_onto]
  rfl

theorem prints_log (e : Event) (a : α) : Prints fun w => (w.log e, a) :=
  .ignores fun w o => by rw [log_onto]

theorem logAll_onto (w : World) (o : Output) (events : List Event) :
    (w.onto o).logAll events = (w.logAll events).onto o := by
  unfold logAll
  induction events generalizing w with
  | nil => rfl
  | cons e events ih => rw [List.foldl_cons, List.foldl_cons, log_onto, ih]

@[simp] theorem logAll_stdout (w : World) (events : List Event) :
    (w.logAll events).stdout = w.stdout := by
  show ((w.onto w.stdout).logAll events).stdout = w.stdout
  rw [logAll_onto]
  rfl

theorem prints_write (sink : Sink) (bs : Bytes) : Prints fun w => w.write sink bs := by
  rcases sink with (_ | _) | h
  · intro w hw
    refine ⟨bs, hw.grows_write bs, ?_⟩
    intro o ho
    refine ⟨(o.write bs).1, ho.grows_write bs, ?_⟩
    simp only [write, console, setConsole, onto, hw.write_eq, ho.write_eq]
  · exact .ignores fun w o => rfl
  · exact .ignores fun w o => rfl

theorem prints_flush (sink : Sink) : Prints fun w => w.flush sink := by
  rcases sink with (_ | _) | h
  · intro w hw
    refine ⟨[], hw.grows_flush, ?_⟩
    intro o ho
    refine ⟨o.flush.1, ho.grows_flush, ?_⟩
    simp only [flush, console, setConsole, onto, hw.flush_eq, ho.flush_eq]
  · exact .ignores fun w o => rfl
  · exact .ignores fun w o => rfl

/-- The opening of a target; nothing has happened if it is refused. -/
def tryOpen (stream : Stream) (target : Option Path) (append : Bool) (w : World) :
    World × Except Failure Sink :=
  match w.openSink stream target append with
  | .ok (w, sink) => (w, .ok sink)
  | .error failure => (w, .error failure)

theorem prints_tryOpen (stream : Stream) (target : Option Path) (append : Bool) :
    Prints (tryOpen stream target append) := by
  refine .ignores fun w o => ?_
  unfold tryOpen openSink
  cases target with
  | none => rfl
  | some path =>
    dsimp only
    rw [show (w.onto o).files.openToWrite (w.onto o).workDir path append =
      w.files.openToWrite w.workDir path append from rfl]
    rcases w.files.openToWrite w.workDir path append with fault | ⟨files, h⟩ <;> rfl

theorem prints_openStreams (c : Command) : Prints fun w => w.openStreams c := by
  refine (prints_tryOpen .out c.stdout c.append).andThen
    (g := fun out w => match tryOpen .err c.stderr c.append w with
      | (w, .error failure) => (w, .error failure)
      | (w, .ok err) => (w, .ok (out, err))) ?_ ?_
  · intro out
    exact (prints_tryOpen .err c.stderr c.append).andThen (g := fun err w => (w, .ok (out, err)))
      (fun err => .pure _) fun w => by rcases tryOpen .err c.stderr c.append w with ⟨w, _ | _⟩ <;> rfl
  · intro w
    unfold openStreams tryOpen
    rcases w.openSink .out c.stdout c.append with failure | ⟨w, out⟩
    · rfl
    · dsimp only
      rcases w.openSink .err c.stderr c.append with failure | ⟨w, err⟩ <;> rfl

/-! ## Builtins -/

/-- Flushes two sinks; stops at the first fault. -/
def flushBoth (out err : Sink) (w : World) : World × Option Fault :=
  match w.flush out with
  | (w, some fault) => (w, some fault)
  | (w, none) => w.flush err

theorem prints_flushBoth (out err : Sink) : Prints (flushBoth out err) := by
  refine (prints_flush out).bind
    (g := fun fault w => if fault.isSome then (w, fault) else w.flush err) ?_ ?_
  · rintro (_ | fault)
    · exact prints_flush err
    · exact .pure _
  · intro w
    unfold flushBoth
    rcases w.flush out with ⟨w, _ | fault⟩ <;> rfl

/-- Writes a text to one sink and flushes it and another one; stops at the first fault. -/
def writeLast (out err : Sink) (errText : Bytes) (w : World) : World × Option Fault :=
  match w.write err errText with
  | (w, _, some fault) => (w, some fault)
  | (w, err, none) => flushBoth out err w

theorem prints_writeLast (out err : Sink) (errText : Bytes) : Prints (writeLast out err errText) := by
  refine (prints_write err errText).bind
    (g := fun written w => if written.2.isSome then (w, written.2) else flushBoth out written.1 w)
    ?_ ?_
  · rintro ⟨err, _ | fault⟩
    · exact prints_flushBoth out err
    · exact .pure _
  · intro w
    unfold writeLast
    rcases w.write err errText with ⟨w, err, _ | fault⟩ <;> rfl

theorem prints_writeBoth (out err : Sink) (outText errText : Bytes) :
    Prints fun w => w.writeBoth out err outText errText := by
  refine (prints_write out outText).bind
    (g := fun written w =>
      if written.2.isSome then (w, written.2) else writeLast written.1 err errText w) ?_ ?_
  · rintro ⟨out, _ | fault⟩
    · exact prints_writeLast out err errText
    · exact .pure _
  · intro w
    unfold writeBoth
    rcases w.write out outText with ⟨w, out, _ | fault⟩
    · dsimp only [writeLast, flushBoth]
      rfl
    · rfl

/-- The world in which a report is delivered: the working directory has changed, and the log knows. -/
def deliverAt (w : World) (r : Report) : World :=
  let moved := { w with workDir := r.workDir }
  (r.event.map moved.log).getD moved

theorem deliverAt_onto (w : World) (r : Report) (o : Output) :
    (w.onto o).deliverAt r = (w.deliverAt r).onto o := by
  unfold deliverAt
  cases r.event with
  | none => rfl
  | some event => exact log_onto { w with workDir := r.workDir } o event

theorem prints_deliver (r : Report) (out err : Sink) : Prints fun w => w.deliver r out err := by
  refine (Prints.ignores (f := fun w => (w.deliverAt r, ())) fun w o => ?_).bind
    (g := fun _ w =>
      let written := w.writeBoth out err (Utf8.encode r.out) (Utf8.encode r.err)
      (written.1, r.outcome written.2)) ?_ ?_
  · rw [deliverAt_onto]
  · intro _
    exact (prints_writeBoth out err _ _).bind (g := fun fault w => (w, r.outcome fault))
      (fun _ => .pure _) fun _ => rfl
  · intro w
    rfl

end World

/-! ## Programs -/

/-- The start of a program; nothing has happened if it is refused. -/
def Launcher.attempt (launch : Launcher) (l : Launch) (w : World) :
    World × Except Fault ExitStatus :=
  match launch w l with
  | .ok (w, status) => (w, .ok status)
  | .error fault => (w, .error fault)

/-- Programs add to the standard output, and cannot read back what stands there. -/
def Launcher.OnlyPrints (launch : Launcher) : Prop := ∀ l, World.Prints (launch.attempt l)

/-- Programs that write a text to their standard output and end, at these paths; nothing else can be
    started. -/
def Launcher.printing (programs : List (Path × Bytes)) : Launcher := fun w l =>
  match programs.lookup l.program with
  | none => .error .noEntry
  | some text =>
    let (w, _, fault) := w.write l.out text
    .ok (w, .code (if fault.isSome then 1 else 0))

theorem Launcher.onlyPrints_printing (programs : List (Path × Bytes)) :
    (printing programs).OnlyPrints := by
  intro l
  unfold attempt printing
  cases programs.lookup l.program with
  | none => exact .pure _
  | some text =>
    exact (World.prints_write l.out text).bind
      (g := fun written w => (w, .ok (.code (if written.2.isSome then 1 else 0))))
      (fun _ => .pure _) fun _ => rfl

namespace World

theorem prints_launchWith {launch : Launcher} (hlaunch : launch.OnlyPrints) (l : Launch) :
    Prints fun w => launchWith launch w l := by
  refine (hlaunch l).bind
    (g := fun ended w => match ended with
      | .error cause => (w.log (.startFailed l.program cause), .error (.commandNotFound l.name))
      | .ok status =>
        (if status.isSuccess then w else w.log (.programFailed l.name status), .ok .goOn)) ?_ ?_
  · rintro (cause | status)
    · exact prints_log _ _
    · dsimp only
      split
      · exact .pure _
      · exact prints_log _ _
  · intro w
    unfold launchWith Launcher.attempt
    rcases launch w l with cause | ⟨w, status⟩ <;> rfl

/-! ## Commands -/

/-- What a route leads to, in the files and the working directory in which it was found. -/
def followRoute (launch : Launcher) (settings : Settings) (name : Text) (args : List Text)
    (out err : Sink) (known : Route × FileSystem × Position) (w : World) :
    World × Except Failure Flow :=
  match known.1 with
  | .builtin b => w.deliver (b.run settings known.2.1 known.2.2 args) out err
  | .program path => launchWith launch w ⟨path, name, args, out, err⟩
  | .nothing => (w, .error (.commandNotFound name))

theorem prints_perform {launch : Launcher} (hlaunch : launch.OnlyPrints) (settings : Settings)
    (name : Text) (args : List Text) (out err : Sink) :
    Prints fun w => w.perform launch settings name args out err := by
  -- what is done is told by the files and the working directory alone
  refine .choose (fun w => (settings.route w.files w.workDir name, w.files, w.workDir))
    (g := followRoute launch settings name args out err) (fun _ _ => rfl) ?_ fun _ => rfl
  rintro ⟨b | path | _, files, workDir⟩
  · exact prints_deliver _ out err
  · exact prints_launchWith hlaunch _
  · exact .pure _

/-- What is left of a command once its streams have been opened, or refused. -/
def afterOpening (launch : Launcher) (settings : Settings) (c : Command)
    (opened : Except Failure (Sink × Sink)) (w : World) : World × Except Failure Flow :=
  match opened with
  | .error failure => (w.log (.targetRefused c.name failure), .error failure)
  | .ok (out, err) => w.perform launch settings c.name c.args out err

/-- **A command** only adds to the standard output. -/
theorem prints_execute {launch : Launcher} (hlaunch : launch.OnlyPrints) (settings : Settings)
    (c : Command) : Prints fun w => w.execute launch settings c := by
  unfold execute
  split
  · exact .pure _
  have hopened : Prints fun w =>
      afterOpening launch settings c (w.openStreams c).2 (w.openStreams c).1 := by
    refine (prints_openStreams c).bind (g := afterOpening launch settings c) ?_ fun _ => rfl
    rintro (failure | ⟨out, err⟩)
    · exact prints_log _ _
    · exact prints_perform hlaunch settings c.name c.args out err
  refine (prints_log (.dispatched c) ()).bind (g := fun _ w =>
    afterOpening launch settings c (w.openStreams c).2 (w.openStreams c).1) (fun _ => hopened) ?_
  intro w
  dsimp only
  rcases (w.log (.dispatched c)).openStreams c with ⟨w, failure | ⟨out, err⟩⟩ <;> rfl

end World

end CommandShell
