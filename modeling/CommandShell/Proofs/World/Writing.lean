import CommandShell.Dispatch

/-!
# `CommandShell.Proofs.World.Writing` — what writing to files leaves alone

Opening a file to write, and writing to it, changes contents and may create a file that nobody may
execute. Directories and links stay what they are, so that every path leads where it led before, unless
it leads to a new file; and no program comes or goes.

## Contents
- **Trees.** `FileSystem.Written`, kept by `written_put`, `written_write` and `written_openToWrite`.
- **Walks.** `SameWay` compares two walks of one path; `walk_sameWay` and `resolve_sameWay`, and
  `enter_eq_ok_iff` for directories.
- **Programs.** `isExecutable_eq` and `findExecutable_eq`.
- **Worlds.** `World.Prepared`, for all that is done before a command itself is carried out; `run_eq` says
  that no builtin notices. `writeBoth_steps` takes a delivery apart.
-/

namespace CommandShell

/-- A sequence of two actions succeeds if both do. -/
theorem exists_of_bind_eq_ok {ε α β : Type} {x : Except ε α} {f : α → Except ε β} {b : β}
    (h : (x >>= f) = .ok b) : ∃ a, x = .ok a ∧ f a = .ok b := by
  cases x with
  | error e => cases h
  | ok a => exact ⟨a, rfl, h⟩

/-! ## Trees -/

/-- What writing may make of what stands at a location: another content, or a file that nobody may
    execute where nothing was. -/
inductive Node.Written : Option Node → Option Node → Prop where
  | kept (n : Option Node) : Written n n
  | filled (content content' : Bytes) (mode : Mode) :
      Written (some (.file content mode)) (some (.file content' mode))
  | created (content : Bytes) {mode : Mode} (h : mode.anyoneExecutes = false) :
      Written none (some (.file content mode))

theorem Node.Written.trans {n n' n'' : Option Node} (h : Written n n') (h' : Written n' n'') :
    Written n n'' := by
  cases h with
  | kept => exact h'
  | filled content _ mode =>
    cases h' with
    | kept => exact .filled ..
    | filled => exact .filled ..
  | created content hmode =>
    cases h' with
    | kept => exact .created _ hmode
    | filled => exact .created _ hmode

/-- What is a directory stays one, and what is none never becomes one. -/
theorem Node.Written.any_isDirectory {n n' : Option Node} (h : Written n n') :
    n'.any Node.isDirectory = n.any Node.isDirectory := by cases h <;> rfl

/-- No program comes or goes. -/
theorem Node.Written.any_isExecutable {n n' : Option Node} (h : Written n n') :
    n'.any Node.isExecutable = n.any Node.isExecutable := by
  cases h with
  | kept => rfl
  | filled => rfl
  | created _ hmode => exact hmode

namespace FileSystem

/-- The tree `fs'` is the tree `fs` after something has been written. -/
def Written (fs fs' : FileSystem) : Prop := ∀ l, Node.Written (fs.node? l) (fs'.node? l)

variable {fs fs' fs'' : FileSystem}

theorem Written.refl (fs : FileSystem) : fs.Written fs := fun _ => .kept _

theorem Written.trans (h : fs.Written fs') (h' : fs'.Written fs'') : fs.Written fs'' :=
  fun l => (h l).trans (h' l)

theorem written_put {l : Location} {n : Node} (h : Node.Written (fs.node? l) (some n)) :
    fs.Written (fs.put l n) := by
  intro m
  by_cases hm : m = l
  · subst hm
    by_cases hroot : m = []
    · subst hroot
      exact .kept _
    · rw [node?_put_self hroot]
      exact h
  · rw [node?_put_ne hm]
    exact .kept _

theorem written_write (fs : FileSystem) (h : Handle) (bs : Bytes) :
    fs.Written (fs.write h bs).1 := by
  unfold write
  split
  · exact .refl fs
  split
  · next content mode hnode =>
    refine written_put ?_
    rw [hnode]
    exact .filled ..
  · exact .refl fs
  · exact .refl fs

/-- A walk that finds a free name finds nothing there. -/
theorem walkParts_free {follow : Position → List Bytes → Except Fault Place} {purpose : Purpose}
    {dir : Location} {n : Name}
    (hfollow : ∀ p parts, follow p parts = .ok (.free dir n) → fs.node? (dir ++ [n]) = none)
    {p : Position} {parts : List Bytes}
    (h : fs.walkParts follow purpose p parts = .ok (.free dir n)) :
    fs.node? (dir ++ [n]) = none := by
  induction parts generalizing p with
  | nil => cases h
  | cons part rest ih =>
    rw [walkParts] at h
    split at h
    · cases h
    split at h
    · exact ih h
    split at h
    · exact ih h
    split at h
    · cases h
    split at h
    · cases h
    split at h
    · cases h
    split at h
    · next hnode =>
      split at h
      · cases h
        exact hnode
      · cases h
    · exact hfollow _ _ h
    · exact ih h

theorem walk_free {purpose : Purpose} {links : Nat} {p : Position} {parts : List Bytes}
    {dir : Location} {n : Name} (h : fs.walk purpose links p parts = .ok (.free dir n)) :
    fs.node? (dir ++ [n]) = none := by
  induction links generalizing p parts with
  | zero =>
    rw [walk] at h
    refine walkParts_free ?_ h
    intro _ _ hfollow
    cases hfollow
  | succ links ih =>
    rw [walk] at h
    exact walkParts_free (fun _ _ hfollow => ih hfollow) h

theorem resolve_free {wd : Position} {purpose : Purpose} {path : Path} {dir : Location} {n : Name}
    (h : fs.resolve wd purpose path = .ok (.free dir n)) : fs.node? (dir ++ [n]) = none := by
  unfold resolve at h
  split at h
  · cases h
  split at h
  · cases h
  split at h
  · cases h
  · exact walk_free h

theorem written_openNode {p : Position} {append : Bool} {n : Node} {h : Handle}
    (hnode : fs.nodeAt? p = some n) (hopen : fs.openNode p.location append n = .ok (fs', h)) :
    fs.Written fs' := by
  unfold openNode at hopen
  split at hopen
  · cases hopen
  · next content mode =>
    split at hopen
    · cases hopen
    split at hopen
    · cases hopen
      exact .refl fs
    · cases hopen
      -- a position with a file has not been removed
      have hfile : fs.node? p.location = some (.file content mode) := by
        unfold nodeAt? at hnode
        split at hnode
        · exact hnode
        · cases hnode
      refine written_put ?_
      rw [hfile]
      exact .filled ..
  all_goals cases hopen
  · exact .refl fs
  · exact .refl fs

/-- **Opening a file to write** writes, if only an empty file. -/
theorem written_openToWrite {wd : Position} {path : Path} {append : Bool} {h : Handle}
    (hopen : fs.openToWrite wd path append = .ok (fs', h)) : fs.Written fs' := by
  obtain ⟨place, hresolve, hopen⟩ := exists_of_bind_eq_ok hopen
  cases place with
  | free dir n =>
    replace hopen : fs.createFile dir n append = .ok (fs', h) := hopen
    unfold createFile at hopen
    split at hopen
    · cases hopen
      refine written_put ?_
      rw [resolve_free hresolve]
      exact .created _ rfl
    · cases hopen
  | found p =>
    dsimp only at hopen
    split at hopen
    · cases hopen
    · next hnode => exact written_openNode hnode hopen

/-! ## Walks -/

/-- Whether there is a program at a position. -/
def isProgramAt (fs : FileSystem) (p : Position) : Bool := (fs.nodeAt? p).any Node.isExecutable

theorem Written.isProgramAt_eq (h : fs.Written fs') (p : Position) :
    fs'.isProgramAt p = fs.isProgramAt p := by
  unfold isProgramAt nodeAt?
  split
  · exact (h p.location).any_isExecutable
  · rfl

/-- Two walks of one path, in `fs` and in `fs'`, after something has been written there: they go the same
    way, but for what is new. A new file is where a free name was, and nothing lies below it. -/
inductive SameWay (fs fs' : FileSystem) : Except Fault Place → Except Fault Place → Prop where
  | same (r : Except Fault Place) : SameWay fs fs' r r
  | created {dir : Location} {n : Name} {content : Bytes} {mode : Mode}
      (hfree : fs.node? (dir ++ [n]) = none) (hmode : mode.anyoneExecutes = false)
      (hfile : fs'.node? (dir ++ [n]) = some (.file content mode)) :
      SameWay fs fs' (.ok (.free dir n)) (.ok (.found ⟨dir ++ [n], 0⟩))
  | blocked {l : Location} (fault fault' : Fault) (hfree : fs.node? l = none)
      (hnode : fs'.node? l ≠ none) : SameWay fs fs' (.error fault) (.error fault')

/-- What is found is found still. -/
theorem SameWay.found {r r' : Except Fault Place} (h : fs.SameWay fs' r r') {q : Position}
    (hr : r = .ok (.found q)) : r' = .ok (.found q) := by
  cases h with
  | same => exact hr
  | created => cases hr
  | blocked => cases hr

/-- What is found now and was not before is no program. -/
theorem SameWay.found_before {r r' : Except Fault Place} (h : fs.SameWay fs' r r') {q : Position}
    (hr : r' = .ok (.found q)) : r = .ok (.found q) ∨ fs'.isProgramAt q = false := by
  cases h with
  | same => exact .inl hr
  | created _ hmode hfile =>
    cases hr
    refine .inr ?_
    rw [isProgramAt, nodeAt?, if_pos rfl, hfile]
    exact hmode
  | blocked => cases hr

theorem Written.isDirectory_eq (h : fs.Written fs') (l : Location) :
    fs'.isDirectory l = fs.isDirectory l := (h l).any_isDirectory

theorem Written.canEnter_eq (h : fs.Written fs') (p : Position) :
    fs'.canEnter p = fs.canEnter p := by
  unfold canEnter
  rw [h.isDirectory_eq]

/-- Nothing lies below a file. -/
theorem walkParts_of_file {follow : Position → List Bytes → Except Fault Place} {purpose : Purpose}
    {p : Position} {content : Bytes} {mode : Mode} (hp : p.removed = 0)
    (hfile : fs.node? p.location = some (.file content mode)) (parts : List Bytes) :
    fs.walkParts follow purpose p parts =
      if parts = [] then .ok (.found p) else .error .notADirectory := by
  cases parts with
  | nil => rfl
  | cons part rest =>
    have henter : fs.canEnter p = false := by
      unfold canEnter isDirectory
      rw [hp, hfile]
      rfl
    rw [walkParts, henter, entryFault, hfile]
    rfl

theorem Written.sameWay_entryFault (h : fs.Written fs') (p : Position) :
    fs.SameWay fs' (.error (fs.entryFault p)) (.error (fs'.entryFault p)) := by
  unfold entryFault
  have hnode := h p.location
  generalize hbefore : fs.node? p.location = before at hnode
  generalize hafter : fs'.node? p.location = after at hnode
  cases hnode with
  | kept => exact .same _
  | filled => exact .same _
  | created => exact .blocked _ _ hbefore (by rw [hafter]; exact Option.some_ne_none _)

theorem walkParts_sameWay (h : fs.Written fs') {purpose : Purpose}
    {follow follow' : Position → List Bytes → Except Fault Place}
    (hfollow : ∀ p parts, fs.SameWay fs' (follow p parts) (follow' p parts)) (p : Position)
    (parts : List Bytes) :
    fs.SameWay fs' (fs.walkParts follow purpose p parts)
      (fs'.walkParts follow' purpose p parts) := by
  induction parts generalizing p with
  | nil => exact .same _
  | cons part rest ih =>
    rw [walkParts, walkParts, h.canEnter_eq]
    split
    · exact h.sameWay_entryFault p
    split
    · exact ih p
    split
    · exact ih p.up
    split
    · exact .same _
    split
    · exact .same _
    split
    · exact .same _
    · next n hn =>
      have hnode := h (p.location ++ [n])
      generalize hbefore : fs.node? (p.location ++ [n]) = before at hnode
      generalize hafter : fs'.node? (p.location ++ [n]) = after at hnode
      cases hnode with
      | kept =>
        cases before with
        | none => exact .same _
        | some node =>
          cases node with
          | link target => exact hfollow ..
          | _ => exact ih (p.down n)
      | filled => exact ih (p.down n)
      | created content hmode =>
        -- the walk went nowhere before, and ends at the new file now
        rw [walkParts_of_file (p := p.down n) rfl hafter]
        dsimp only
        by_cases hrest : rest = []
        · rw [if_pos hrest, if_pos hrest]
          exact .created hbefore hmode hafter
        · rw [if_neg hrest, if_neg hrest]
          exact .blocked _ _ hbefore (by rw [hafter]; exact Option.some_ne_none _)

theorem walk_sameWay (h : fs.Written fs') (purpose : Purpose) (links : Nat) (p : Position)
    (parts : List Bytes) :
    fs.SameWay fs' (fs.walk purpose links p parts) (fs'.walk purpose links p parts) := by
  induction links generalizing p parts with
  | zero => exact walkParts_sameWay h (fun _ _ => .same _) p parts
  | succ links ih => exact walkParts_sameWay h ih p parts

/-- **Every path** leads where it led before, unless it leads to a new file. -/
theorem resolve_sameWay (h : fs.Written fs') (wd : Position) (purpose : Purpose) (path : Path) :
    fs.SameWay fs' (fs.resolve wd purpose path) (fs'.resolve wd purpose path) := by
  unfold resolve
  split
  · exact .same _
  split
  · exact .same _
  split
  · exact .same _
  · exact walk_sameWay h ..

/-- **Every directory** that can be entered could be entered before, and the other way round. -/
theorem Written.enter_eq_ok_iff (h : fs.Written fs') {wd : Position} {path : Path} {p : Position} :
    fs'.enter wd path = .ok p ↔ fs.enter wd path = .ok p := by
  have hway := resolve_sameWay h wd .look path
  unfold enter
  generalize fs.resolve wd .look path = r at hway
  generalize fs'.resolve wd .look path = r' at hway
  cases hway with
  | same =>
    rcases r with fault | q | ⟨dir, n⟩
    · rfl
    · show (if fs'.canEnter q then _ else _) = _ ↔ (if fs.canEnter q then _ else _) = _
      rw [h.canEnter_eq]
      split
      · rfl
      · exact ⟨nofun, nofun⟩
    · rfl
  | @created dir n content mode _ _ hfile =>
    -- a new file is no directory
    have henter : fs'.canEnter ⟨dir ++ [n], 0⟩ = false := by
      unfold canEnter isDirectory
      rw [hfile]
      rfl
    constructor
    · intro hok
      change (if fs'.canEnter ⟨dir ++ [n], 0⟩ then _ else _) = Except.ok p at hok
      rw [henter] at hok
      cases hok
    · intro hok
      cases hok
  | blocked => exact ⟨nofun, nofun⟩

/-! ## Programs -/

/-- What it takes to be a program. -/
theorem isExecutable_iff {wd : Position} {path : Path} :
    fs.isExecutable wd path = true ↔
      ∃ p, fs.resolve wd .look path = .ok (.found p) ∧ fs.isProgramAt p = true := by
  unfold isExecutable stat locate isProgramAt
  rcases fs.resolve wd .look path with fault | p | ⟨dir, n⟩
  · exact ⟨nofun, nofun⟩
  · simp only [Except.ok.injEq, Place.found.injEq, exists_eq_left', bind, Except.bind]
    cases fs.nodeAt? p <;> rfl
  · exact ⟨nofun, nofun⟩

theorem Written.isExecutable_eq (h : fs.Written fs') (wd : Position) (path : Path) :
    fs'.isExecutable wd path = fs.isExecutable wd path := by
  rw [Bool.eq_iff_iff, isExecutable_iff, isExecutable_iff]
  have hway := resolve_sameWay h wd .look path
  constructor
  · rintro ⟨p, hresolve, hprogram⟩
    rcases hway.found_before hresolve with hresolve | hnot
    · exact ⟨p, hresolve, h.isProgramAt_eq p ▸ hprogram⟩
    · -- a new file is no program
      rw [hnot] at hprogram
      cases hprogram
  · rintro ⟨p, hresolve, hprogram⟩
    exact ⟨p, hway.found hresolve, (h.isProgramAt_eq p).trans hprogram⟩

/-- **No program** comes or goes. -/
theorem Written.findExecutable_eq (h : fs.Written fs') (wd : Position) (searchPath : List Path)
    (name : Text) :
    fs'.findExecutable wd searchPath name = fs.findExecutable wd searchPath name := by
  unfold findExecutable
  rw [funext (h.isExecutable_eq wd)]

end FileSystem

/-! ## Worlds -/

namespace World

/-- The world `w'` is the world `w` after what comes before a command itself: the log has grown, and
    targets have been opened. -/
structure Prepared (w w' : World) : Prop where
  files : w.files.Written w'.files
  workDir : w'.workDir = w.workDir

variable {w w' w'' : World}

theorem Prepared.refl (w : World) : w.Prepared w := ⟨.refl _, rfl⟩

theorem Prepared.trans (h : w.Prepared w') (h' : w'.Prepared w'') : w.Prepared w'' :=
  ⟨h.files.trans h'.files, h'.workDir.trans h.workDir⟩

theorem prepared_log (w : World) (e : Event) : w.Prepared (w.log e) := by
  unfold log
  split
  · exact .refl w
  split
  · exact ⟨w.files.written_write _ _, rfl⟩
  · exact .refl w

theorem prepared_openSink {stream : Stream} {target : Option Path} {append : Bool} {sink : Sink}
    (h : w.openSink stream target append = .ok (w', sink)) : w.Prepared w' := by
  unfold openSink at h
  split at h
  · cases h
    exact .refl w
  · split at h
    · next hopen =>
      cases h
      exact ⟨FileSystem.written_openToWrite hopen, rfl⟩
    · cases h

theorem prepared_openStreams {c : Command} {streams : Sink × Sink}
    (h : w.openStreams c = (w', .ok streams)) : w.Prepared w' := by
  unfold openStreams at h
  split at h
  · cases h
  · next hout =>
    split at h
    · cases h
    · next herr =>
      cases h
      exact (prepared_openSink hout).trans (prepared_openSink herr)

/-- **A delivery in steps.** It writes and flushes, so that it does to a world what both do, whatever comes
    in between. `P` says which sinks are written to. -/
theorem writeBoth_steps {R : World → World → Prop} {P : Sink → Prop}
    (htrans : ∀ {w w' w''}, R w w' → R w' w'' → R w w'')
    (hwrite : ∀ w sink bs, P sink → R w (w.write sink bs).1 ∧ P (w.write sink bs).2.1)
    (hflush : ∀ w sink, P sink → R w (w.flush sink).1) {out err : Sink} (hout : P out) (herr : P err)
    (w : World) (outText errText : Bytes) : R w (w.writeBoth out err outText errText).1 := by
  obtain ⟨hfirst, hout'⟩ := hwrite w out outText hout
  unfold writeBoth
  rcases hwritten : w.write out outText with ⟨w₁, out', _ | fault⟩
  all_goals rw [hwritten] at hfirst hout'
  · obtain ⟨hsecond, herr'⟩ := hwrite w₁ err errText herr
    dsimp only
    rcases hwritten' : w₁.write err errText with ⟨w₂, err', _ | fault⟩
    all_goals rw [hwritten'] at hsecond herr'
    · have hflushed := hflush w₂ out' hout'
      dsimp only
      rcases hflushed' : w₂.flush out' with ⟨w₃, _ | fault⟩
      all_goals rw [hflushed'] at hflushed
      · exact htrans hfirst (htrans hsecond (htrans hflushed (hflush w₃ err' herr')))
      · exact htrans hfirst (htrans hsecond hflushed)
    · exact htrans hfirst hsecond
  · exact hfirst

/-- What `type` knows of a name is still true when a command of that name is carried out. -/
theorem Prepared.kindOf_eq (h : w.Prepared w') (settings : Settings) (name : Text) :
    Builtin.kindOf settings w'.files w'.workDir name =
      Builtin.kindOf settings w.files w.workDir name := by
  unfold Builtin.kindOf
  rw [h.workDir, h.files.findExecutable_eq]

/-- **A builtin** does what it would have done before. -/
theorem Prepared.run_eq (h : w.Prepared w') (b : Builtin) (settings : Settings) (args : List Text) :
    b.run settings w'.files w'.workDir args = b.run settings w.files w.workDir args := by
  cases b with
  | echo => simp only [Builtin.run, h.workDir]
  | exit => simp only [Builtin.run, h.workDir]
  | pwd => simp only [Builtin.run, h.workDir]
  | type =>
    simp only [Builtin.run, Builtin.runType, h.workDir]
    cases args with
    | nil => rfl
    | cons name args =>
      have hkind := h.kindOf_eq settings name
      rw [h.workDir] at hkind
      simp only [List.head?_cons, hkind]
  | cd =>
    simp only [Builtin.run, Builtin.runCd, h.workDir]
    -- whatever the fault, the report is the same
    generalize Builtin.homeTarget settings.home (args.headD []) = target
    cases hbefore : w.files.enter w.workDir target with
    | ok p => rw [h.files.enter_eq_ok_iff.mpr hbefore]
    | error fault =>
      cases hafter : w'.files.enter w.workDir target with
      | ok p =>
        rw [h.files.enter_eq_ok_iff.mp hafter] at hbefore
        cases hbefore
      | error fault' => rfl

end World

end CommandShell
