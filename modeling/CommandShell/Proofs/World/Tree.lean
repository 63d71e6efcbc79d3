import CommandShell.Proofs.World.Opening
import CommandShell.Shell.Loop
import CommandShell.World.Standard

/-!
# `CommandShell.Proofs.World.Tree` — whatever exists stands in a directory

A list of locations need not be a tree. The standard tree is one, and nothing that the shell does makes
something else of it: new files are created in directories only, and no directory becomes something else.

## Contents
- **Trees.** `FileSystem.IsTree`; `FileSystem.Extends`, what writing and opening do to a tree.
- **Positions.** `Position.Stands`, said of directories in use, which may have been removed; `enter_stands`
  for the end of a path, `isDirectory_up` for the way up.
- **Worlds.** `World.Sound`, kept by every command (`Sound.execute`), by whole sessions
  (`Session.sound_run`) and by the start of a shell (`Shell.sound_start`).
-/

namespace CommandShell

/-! ## Trees -/

namespace FileSystem

/-- Whatever exists stands in a directory. -/
def IsTree (fs : FileSystem) : Prop :=
  ∀ l, (fs.node? l).isSome = true → fs.isDirectory l.dropLast = true

variable {fs fs' fs'' : FileSystem}

theorem isTree_iff : fs.IsTree ↔ ∀ e ∈ fs.entries, fs.isDirectory e.1.dropLast = true := by
  constructor
  · intro h e he
    by_cases hroot : e.1 = []
    · rw [hroot]
      rfl
    · refine h e.1 ?_
      rw [node?, if_neg hroot, List.lookup_isSome_iff]
      exact ⟨e, he, beq_self_eq_true _⟩
  · intro h l hl
    by_cases hroot : l = []
    · rw [hroot]
      rfl
    · rw [node?, if_neg hroot, List.lookup_isSome_iff] at hl
      obtain ⟨e, he, heq⟩ := hl
      rw [eq_of_beq heq]
      exact h e he

instance (fs : FileSystem) : Decidable fs.IsTree := decidable_of_iff _ isTree_iff.symm

/-- The tree that a shell finds is one. -/
theorem isTree_standard : standard.IsTree := by decide +kernel

/-- The tree `fs'` is the tree `fs` after something has been written, and what is new stands in a
    directory. -/
structure Extends (fs fs' : FileSystem) : Prop where
  written : fs.Written fs'
  inside : ∀ l, fs.node? l = none → (fs'.node? l).isSome = true → fs.isDirectory l.dropLast = true

theorem Extends.refl (fs : FileSystem) : fs.Extends fs where
  written := .refl fs
  inside l hnone hsome := by
    rw [hnone] at hsome
    cases hsome

theorem Extends.trans (h : fs.Extends fs') (h' : fs'.Extends fs'') : fs.Extends fs'' where
  written := h.written.trans h'.written
  inside l hnone hsome := by
    cases hnode : fs'.node? l with
    | some n => exact h.inside l hnone (by rw [hnode]; rfl)
    | none =>
      rw [← h.written.isDirectory_eq]
      exact h'.inside l hnode hsome

/-- **A tree** stays one. -/
theorem IsTree.extends (h : fs.IsTree) (hext : fs.Extends fs') : fs'.IsTree := by
  intro l hl
  rw [hext.written.isDirectory_eq]
  cases hnode : fs.node? l with
  | some n => exact h l (by rw [hnode]; rfl)
  | none => exact hext.inside l hnode hl

/-- Nothing new comes of a write. -/
theorem extends_write (fs : FileSystem) (h : Handle) (bs : Bytes) : fs.Extends (fs.write h bs).1 where
  written := fs.written_write h bs
  inside l hnone hsome := by
    have hsame : (fs.write h bs).1.node? l = none := by
      by_cases hl : l = h.location
      · -- where nothing is, nothing is written
        rw [hl] at hnone ⊢
        unfold write
        rw [hnone]
        split <;> exact hnone
      · rw [node?_write_ne hl]
        exact hnone
    rw [hsame] at hsome
    cases hsome

theorem extends_opened {l : Location}
    (h : (fs.node? l).isSome = true ∨ fs.isDirectory l.dropLast = true) (append : Bool) :
    fs.Extends (fs.opened l append) where
  written := fs.written_opened l append
  inside m hnone hsome := by
    by_cases hm : m = l
    · subst hm
      rw [hnone] at h
      exact h.resolve_left Bool.false_ne_true
    · rw [node?_opened_ne hm, hnone] at hsome
      cases hsome

/-- A path that can be opened leads to what exists, or into a directory. -/
theorem isSome_or_isDirectory_of_canOpen {wd : Position} {path : Path} {l : Location}
    (h : fs.canOpen wd path = true) (hl : fs.leadsTo? wd path = some l) :
    (fs.node? l).isSome = true ∨ fs.isDirectory l.dropLast = true := by
  unfold canOpen at h
  unfold leadsTo? at hl
  rcases hresolve : fs.resolve wd .create path with fault | p | ⟨dir, n⟩
  all_goals rw [hresolve] at h hl
  · cases h
  · obtain ⟨hremoved, node, hnode, -⟩ := nodeAt?_of_accepts h
    dsimp only at hl
    rw [if_pos hremoved] at hl
    cases hl
    exact .inl (by rw [hnode]; rfl)
  · cases hl
    have hdir : fs.node? dir = some (.directory true) := eq_of_beq h
    refine .inr ?_
    rw [List.dropLast_concat, isDirectory, hdir]
    rfl

/-- **Opening a file to write** creates it in a directory, if at all. -/
theorem extends_openToWrite {wd : Position} {path : Path} {append : Bool} {h : Handle}
    (hopen : fs.openToWrite wd path append = .ok (fs', h)) : fs.Extends fs' := by
  cases hcan : fs.canOpen wd path with
  | false =>
    obtain ⟨cause, hrefused⟩ := openToWrite_of_refused hcan append
    cases hrefused.symm.trans hopen
  | true =>
    obtain ⟨l, hl, hopened⟩ := openToWrite_of_canOpen hcan append
    cases hopened.symm.trans hopen
    exact extends_opened (isSome_or_isDirectory_of_canOpen hcan hl) append

end FileSystem

/-! ## Positions -/

/-- Above a directory that has been removed there is a directory, if it is in use: the first one above it
    that has not been removed. -/
def Position.Stands (fs : FileSystem) (p : Position) : Prop :=
  p.removed ≠ 0 → fs.isDirectory (p.location.take (p.location.length - p.removed)) = true

namespace FileSystem

open Position (Stands)

variable {fs fs' : FileSystem} {p q : Position}

instance (fs : FileSystem) (p : Position) : Decidable (Stands fs p) :=
  inferInstanceAs (Decidable (p.removed ≠ 0 → _ = true))

theorem stands_of_removed (h : p.removed = 0) : Stands fs p := fun hne => absurd h hne

theorem stands_up (h : Stands fs p) : Stands fs p.up := by
  intro hup
  have hremoved : p.removed - 1 ≠ 0 := hup
  have hstands := h (by omega)
  show fs.isDirectory (p.location.dropLast.take (p.location.dropLast.length - (p.removed - 1))) = true
  rw [List.dropLast_eq_take, List.take_take, List.length_take]
  have hsame : min (min (p.location.length - 1) p.location.length - (p.removed - 1))
      (p.location.length - 1) = p.location.length - p.removed := by omega
  rw [hsame]
  exact hstands

theorem Written.stands (hwritten : fs.Written fs') (h : Stands fs p) : Stands fs' p := by
  intro hremoved
  rw [hwritten.isDirectory_eq]
  exact h hremoved

/-- What a walk can enter is a directory. -/
theorem isDirectory_of_canEnter (h : fs.canEnter p = true) :
    (fs.nodeAt? p).any Node.isDirectory = true := by
  unfold nodeAt?
  split
  · next hremoved =>
    rw [canEnter, hremoved] at h
    exact h
  · rfl

/-- **The way up** leads to a directory. -/
theorem isDirectory_up (hfs : fs.IsTree) (hp : Stands fs p) (h : fs.canEnter p = true) :
    (fs.nodeAt? p.up).any Node.isDirectory = true := by
  unfold nodeAt?
  split
  · next hup =>
    replace hup : p.removed - 1 = 0 := hup
    show fs.isDirectory p.location.dropLast = true
    by_cases hremoved : p.removed = 0
    · refine hfs p.location ?_
      rw [canEnter, hremoved] at h
      replace h : (fs.node? p.location).any Node.isDirectory = true := h
      cases hnode : fs.node? p.location with
      | some n => rfl
      | none =>
        rw [hnode] at h
        cases h
    · -- the directory itself was the last one that has been removed
      have hone : p.removed = 1 := by omega
      have hstands := hp hremoved
      rw [hone, ← List.dropLast_eq_take] at hstands
      exact hstands
  · rfl

theorem walkParts_stands {follow : Position → List Bytes → Except Fault Place} {purpose : Purpose}
    (hfollow : ∀ {p q parts}, Stands fs p → follow p parts = .ok (.found q) → Stands fs q)
    {parts : List Bytes} (hp : Stands fs p)
    (h : fs.walkParts follow purpose p parts = .ok (.found q)) : Stands fs q := by
  induction parts generalizing p with
  | nil =>
    cases h
    exact hp
  | cons part rest ih =>
    rw [walkParts] at h
    split at h
    · cases h
    split at h
    · exact ih hp h
    split at h
    · exact ih (stands_up hp) h
    split at h
    · cases h
    split at h
    · cases h
    split at h
    · cases h
    split at h
    · split at h <;> cases h
    · -- a link leads on from the root or from where it stands
      refine hfollow ?_ h
      split
      · exact stands_of_removed rfl
      · exact hp
    · exact ih (stands_of_removed rfl) h

theorem walk_stands {purpose : Purpose} {links : Nat} {parts : List Bytes} (hp : Stands fs p)
    (h : fs.walk purpose links p parts = .ok (.found q)) : Stands fs q := by
  induction links generalizing p q parts with
  | zero =>
    refine walkParts_stands ?_ hp h
    intro _ _ _ _ hfollow
    cases hfollow
  | succ links ih => exact walkParts_stands ih hp h

/-- **The directory at the end of a path** stands, if the path leads on from one that does. -/
theorem enter_stands {wd : Position} {path : Path} (hwd : Stands fs wd)
    (h : fs.enter wd path = .ok q) : Stands fs q := by
  obtain ⟨place, hresolve, hplace⟩ := exists_of_bind_eq_ok h
  cases place with
  | free dir n => cases hplace
  | found p =>
    dsimp only at hplace
    split at hplace
    · cases hplace
      unfold resolve at hresolve
      split at hresolve
      · cases hresolve
      split at hresolve
      · cases hresolve
      split at hresolve
      · cases hresolve
      refine walk_stands ?_ hresolve
      split
      · exact stands_of_removed rfl
      · exact hwd
    · cases hplace

end FileSystem

/-! ## Worlds -/

namespace World

/-- The files are a tree, and the working directory stands in it. -/
structure Sound (w : World) : Prop where
  files : w.files.IsTree
  workDir : w.workDir.Stands w.files

/-- The world `w'` is the world `w` after something has been written, nothing else having happened to the
    files and the working directory. -/
structure Extends (w w' : World) : Prop where
  files : w.files.Extends w'.files
  workDir : w'.workDir = w.workDir

variable {w w' w'' : World}

theorem Extends.refl (w : World) : w.Extends w := ⟨.refl _, rfl⟩

theorem Extends.trans (h : w.Extends w') (h' : w'.Extends w'') : w.Extends w'' :=
  ⟨h.files.trans h'.files, h'.workDir.trans h.workDir⟩

/-- **A sound world** stays sound whatever is written. -/
theorem Sound.extends (h : w.Sound) (hext : w.Extends w') : w'.Sound where
  files := h.files.extends hext.files
  workDir := by
    rw [hext.workDir]
    exact hext.files.written.stands h.workDir

theorem extends_log (w : World) (e : Event) : w.Extends (w.log e) := by
  unfold log
  split
  · exact .refl w
  split
  · exact ⟨w.files.extends_write _ _, rfl⟩
  · exact .refl w

theorem extends_logAll (w : World) (events : List Event) : w.Extends (w.logAll events) := by
  unfold logAll
  induction events generalizing w with
  | nil => exact .refl w
  | cons e events ih => exact (extends_log w e).trans (ih _)

theorem extends_setConsole (w : World) (s : Stream) (o : Output) : w.Extends (w.setConsole s o) := by
  cases s <;> exact ⟨.refl w.files, rfl⟩

theorem extends_write (w : World) (sink : Sink) (bs : Bytes) : w.Extends (w.write sink bs).1 := by
  cases sink with
  | console s => exact extends_setConsole w s _
  | file h => exact ⟨w.files.extends_write h bs, rfl⟩

theorem extends_flush (w : World) (sink : Sink) : w.Extends (w.flush sink).1 := by
  cases sink with
  | console s => exact extends_setConsole w s _
  | file h => exact .refl w

theorem extends_writeAll (w : World) (sink : Sink) (pieces : List Bytes) :
    w.Extends (w.writeAll sink pieces).1 := by
  induction pieces generalizing w sink with
  | nil => exact extends_flush w sink
  | cons bs rest ih =>
    have hfirst := extends_write w sink bs
    rw [writeAll]
    rcases hwrite : w.write sink bs with ⟨written, sink', _ | fault⟩
    all_goals rw [hwrite] at hfirst
    · exact hfirst.trans (ih written sink')
    · exact hfirst

theorem extends_writeBoth (w : World) (out err : Sink) (outText errText : Bytes) :
    w.Extends (w.writeBoth out err outText errText).1 :=
  writeBoth_steps (P := fun _ => True) (fun h h' => h.trans h')
    (fun w sink bs _ => ⟨extends_write w sink bs, trivial⟩) (fun w sink _ => extends_flush w sink)
    trivial trivial w outText errText

theorem extends_openSink {stream : Stream} {target : Option Path} {append : Bool} {sink : Sink}
    (h : w.openSink stream target append = .ok (w', sink)) : w.Extends w' := by
  unfold openSink at h
  split at h
  · cases h
    exact .refl w
  · split at h
    · next hopen =>
      cases h
      exact ⟨FileSystem.extends_openToWrite hopen, rfl⟩
    · cases h

theorem extends_openStreams (w : World) (c : Command) : w.Extends (w.openStreams c).1 := by
  unfold openStreams
  split
  · exact .refl w
  · next hout =>
    split
    · exact extends_openSink hout
    · next herr => exact (extends_openSink hout).trans (extends_openSink herr)

/-! ## Commands and sessions -/

/-- A builtin leaves a working directory that stands. -/
theorem Sound.run_workDir (h : w.Sound) (b : Builtin) (settings : Settings) (args : List Text) :
    (b.run settings w.files w.workDir args).workDir.Stands w.files := by
  cases b with
  | echo => exact h.workDir
  | exit => exact h.workDir
  | type =>
    unfold Builtin.run Builtin.runType
    dsimp only
    split <;> exact h.workDir
  | pwd =>
    unfold Builtin.run Builtin.runPwd
    dsimp only
    split <;> exact h.workDir
  | cd =>
    unfold Builtin.run Builtin.runCd
    dsimp only
    split
    · next henter => exact FileSystem.enter_stands h.workDir henter
    · exact h.workDir

theorem Sound.deliver (h : w.Sound) {r : Report} (hr : r.workDir.Stands w.files) (out err : Sink) :
    (w.deliver r out err).1.Sound := by
  have hmoved : Sound { w with workDir := r.workDir } := ⟨h.files, hr⟩
  have hlogged : ((r.event.map ({ w with workDir := r.workDir } : World).log).getD
      { w with workDir := r.workDir }).Sound := by
    cases r.event with
    | none => exact hmoved
    | some event => exact hmoved.extends (extends_log _ event)
  exact hlogged.extends (extends_writeBoth _ out err _ _)

end World

/-- Programs leave the world sound in which they were started. -/
def Launcher.KeepsSound (launch : Launcher) : Prop :=
  ∀ {w w' : World} {l : Launch} {status : ExitStatus}, w.Sound → launch w l = .ok (w', status) →
    w'.Sound

namespace World

variable {w : World}

theorem Sound.launchWith {launch : Launcher} (hlaunch : launch.KeepsSound) (h : w.Sound) (l : Launch) :
    (launchWith launch w l).1.Sound := by
  unfold World.launchWith
  split
  · exact h.extends (extends_log ..)
  · next hstart =>
    have hafter := hlaunch h hstart
    dsimp only
    split
    · exact hafter
    · exact hafter.extends (extends_log ..)

/-- **A command** leaves the world sound. -/
theorem Sound.execute {launch : Launcher} (hlaunch : launch.KeepsSound) (h : w.Sound)
    (settings : Settings) (c : Command) : (w.execute launch settings c).1.Sound := by
  unfold World.execute
  split
  · exact h
  have hopened := h.extends ((extends_log w (.dispatched c)).trans (extends_openStreams _ c))
  split
  · next hrefused =>
    rw [hrefused] at hopened
    exact hopened.extends (extends_log ..)
  · next hok =>
    rw [hok] at hopened
    unfold perform
    split
    · exact hopened.deliver (hopened.run_workDir _ settings c.args) _ _
    · exact hopened.launchWith hlaunch _
    · exact hopened

theorem extends_tellFailure (w : World) (failure : Failure) : w.Extends (w.tellFailure failure).1 :=
  extends_write w (.console .err) (Utf8.encode (failure.message ++ ['\n']))

end World

namespace Session

variable {s : Shell} {x : Session}

theorem sound_tell (h : x.world.Sound) (failure : Failure) : (x.tell failure).1.world.Sound := by
  have hafter := h.extends (World.extends_tellFailure x.world failure)
  unfold tell
  split
  · next htold =>
    rw [htold] at hafter
    exact hafter
  · next hrefused =>
    rw [hrefused] at hafter
    exact hafter

theorem sound_recover (h : x.world.Sound) (failure : Failure) :
    (x.recover failure).1.world.Sound := by
  unfold recover
  split
  · exact h
  · exact sound_tell (x := x.moveTo _) (h.extends (World.extends_log ..)) failure

theorem sound_dispatch (hlaunch : s.launch.KeepsSound) (h : x.world.Sound) (line : Text) :
    (x.dispatch s line).1.world.Sound := by
  have hafter : (s.executeLine x.world line).1.Sound := h.execute hlaunch s.settings _
  unfold dispatch
  split
  · next hrun =>
    rw [hrun] at hafter
    exact hafter
  · next hrun =>
    rw [hrun] at hafter
    exact hafter.extends (World.extends_log ..)
  · next hrun =>
    rw [hrun] at hafter
    split
    · exact hafter
    · exact sound_tell (x := x.moveTo _) hafter _

/-- **A turn of the loop** leaves the world sound. -/
theorem sound_step (hlaunch : s.launch.KeepsSound) (h : x.world.Sound) :
    (x.step s).1.world.Sound := by
  have hprompt : (x.world.showPrompt s.settings.prompt).1.Sound :=
    h.extends (World.extends_writeAll ..)
  have hread (w : World) (hw : w.Sound) (keys : List InputEvent) : (s.readLine w keys).1.Sound := by
    have hechoed : World.Extends w { w with stdout := (s.editor.readFrom w.stdout 0 keys).output } :=
      ⟨.refl w.files, rfl⟩
    exact hw.extends (hechoed.trans (World.extends_logAll ..))
  unfold step
  split
  · next hshown =>
    rw [hshown] at hprompt
    exact sound_recover hprompt _
  · next hshown =>
    rw [hshown] at hprompt
    split
    · exact sound_recover hprompt _
    · next keys hkeys =>
      have hafter := hread _ hprompt keys
      dsimp only
      split
      · exact sound_dispatch hlaunch hafter _
      · exact hafter.extends (World.extends_log ..)
      · exact sound_recover hafter _

/-- **A session** leaves the world sound, however long it is. -/
theorem sound_run (hlaunch : s.launch.KeepsSound) (h : x.world.Sound) (n : Nat) :
    (x.run s n).1.world.Sound := by
  induction n generalizing x with
  | zero => exact h
  | succ n ih =>
    have hstep := sound_step hlaunch h
    rw [run]
    split
    · next hends =>
      rw [hends] at hstep
      exact hstep
    · next hgoes =>
      rw [hgoes] at hstep
      exact ih hstep

end Session

/-- **The start of a shell** leaves the world sound. -/
theorem Shell.sound_start {launch : Launcher} {w w' : World} {s : Shell} (h : w.Sound)
    (hstart : Shell.start launch w = .ok (w', s)) : w'.Sound := by
  obtain ⟨opened, hopen, hrest⟩ := exists_of_bind_eq_ok hstart
  cases hrest
  refine World.Sound.extends ?_ (World.extends_logAll ..)
  unfold openLog at hopen
  split at hopen
  · cases hopen
    exact h
  · split at hopen
    · cases hopen
    · next files handle hfile =>
      cases hopen
      have hfiles : World.Extends w { w with
          files := files, logger := some ⟨handle.location, (Settings.ofEnvironment w.environment).logLevel⟩ } :=
        ⟨FileSystem.extends_openToWrite hfile, rfl⟩
      exact h.extends (hfiles.trans (World.extends_log ..))

end CommandShell
