import CommandShell.Proofs.World.Writing

/-!
# `CommandShell.Proofs.World.Opening` — what it means to open a target

Whether the target of a redirection can be opened, where it leads and what opening it does to the tree
can all be told from the tree beforehand. Neither the log nor the other target makes a difference to
where a target leads.

## Contents
- **Opening.** `FileSystem.opened` is the tree after an opening, location by location in
  `node?_opened_self` and `node?_opened_ne`; `FileSystem.leadsTo?` and `FileSystem.canOpen` say where a path
  leads, and whether that can be opened.
  `openToWrite_of_canOpen` and `openToWrite_of_refused` are the two outcomes.
- **Growth.** `FileSystem.Grown` is what a log does to a tree; no path notices.
- **Targets.** The same for the target of a redirection: `World.openTarget`, `World.leadsTo?`,
  `World.canOpen`, and `openSink_of_canOpen` and `openSink_of_refused`; `openSink_eq_ok_iff` says both.
- **The log.** `World.OnlyLogged`, for a world in which the log may have grown and nothing else happened.
- **Commands.** The three ways in which a command begins: `execute_of_stdout_refused`,
  `execute_of_stderr_refused` and `execute_of_opened`.
-/

namespace CommandShell

/-! ## Opening -/

/-- Whether the system lets the shell open something for writing. -/
def Node.isWritable : Node → Bool
  | .file _ mode => mode.ownerWrites
  | .nullDevice | .fullDevice => true
  | .directory _ | .link _ | .interpreter => false

/-- What opening makes of what stands at a location: an empty file where nothing was, and of a file its
    old content only if it is appended to. -/
def Node.opened (append : Bool) : Option Node → Option Node
  | none => some (.file [] .ordinary)
  | some (.file content mode) => some (.file (if append then content else []) mode)
  | some n => some n

theorem Node.written_opened (append : Bool) (n : Option Node) : Written n (opened append n) := by
  rcases n with _ | n
  · exact .created _ rfl
  cases n with
  | file => exact .filled ..
  | _ => exact .kept _

namespace FileSystem

variable {fs fs' : FileSystem}

/-- The root is a directory. -/
theorem ne_root_of_node? {l : Location} {n : Option Node} (h : fs.node? l = n)
    (hn : n ≠ some (.directory false)) : l ≠ [] := by
  rintro rfl
  exact hn h.symm

/-- The tree after a location has been opened for writing. -/
def opened (fs : FileSystem) (l : Location) (append : Bool) : FileSystem :=
  match fs.node? l with
  | none => fs.put l (.file [] .ordinary)
  | some (.file _ mode) => if append then fs else fs.put l (.file [] mode)
  | some _ => fs

theorem node?_opened_self (fs : FileSystem) (l : Location) (append : Bool) :
    (fs.opened l append).node? l = Node.opened append (fs.node? l) := by
  unfold opened
  split
  · next hnode => rw [node?_put_self (ne_root_of_node? hnode nofun), hnode, Node.opened]
  · next content mode hnode =>
    cases append with
    | true => simp only [if_true, hnode, Node.opened]
    | false =>
      rw [if_neg Bool.false_ne_true, node?_put_self (ne_root_of_node? hnode (by simp)), hnode]
      rfl
  · next n hn hnode =>
    rw [hnode]
    cases n with
    | file content mode => exact absurd rfl (hn content mode)
    | _ => rfl

/-- Opening one location leaves all the others alone. -/
theorem node?_opened_ne {l m : Location} {append : Bool} (h : m ≠ l) :
    (fs.opened l append).node? m = fs.node? m := by
  unfold opened
  split
  · exact node?_put_ne h
  · split
    · rfl
    · exact node?_put_ne h
  · rfl

theorem written_opened (fs : FileSystem) (l : Location) (append : Bool) :
    fs.Written (fs.opened l append) := by
  intro m
  by_cases h : m = l
  · subst h
    rw [node?_opened_self]
    exact Node.written_opened ..
  · rw [node?_opened_ne h]
    exact .kept _

/-- Whether a place can be opened for writing: what is there is writable, or a file can be created. -/
def accepts (fs : FileSystem) : Place → Bool
  | .found p => (fs.nodeAt? p).any Node.isWritable
  | .free dir _ => fs.node? dir == some (.directory true)

/-- Whether a path can be opened for writing. -/
def canOpen (fs : FileSystem) (wd : Position) (path : Path) : Bool :=
  match fs.resolve wd .create path with
  | .ok place => fs.accepts place
  | .error _ => false

/-- The location that is written to through a path, be it free or not. -/
def leadsTo? (fs : FileSystem) (wd : Position) (path : Path) : Option Location :=
  match fs.resolve wd .create path with
  | .ok (.found p) => if p.removed = 0 then some p.location else none
  | .ok (.free dir n) => some (dir ++ [n])
  | .error _ => none

/-- What is writable is not a directory that has been removed. -/
theorem nodeAt?_of_accepts {p : Position} (h : fs.accepts (.found p) = true) :
    p.removed = 0 ∧ ∃ n, fs.node? p.location = some n ∧ n.isWritable = true := by
  have hany : (fs.nodeAt? p).any Node.isWritable = true := h
  unfold nodeAt? at hany
  split at hany
  · next hremoved =>
    cases hnode : fs.node? p.location with
    | none =>
      rw [hnode] at hany
      cases hany
    | some n =>
      rw [hnode] at hany
      exact ⟨hremoved, n, rfl, hany⟩
  · cases hany

/-- What is writable is opened. -/
theorem openNode_of_writable {l : Location} {n : Node} (hnode : fs.node? l = some n)
    (h : n.isWritable = true) (append : Bool) :
    fs.openNode l append n = .ok (fs.opened l append, ⟨l, 0, append⟩) := by
  cases n with
  | file content mode =>
    have hwrites : mode.ownerWrites = true := h
    simp only [openNode, opened, hnode, hwrites]
    cases append <;> rfl
  | nullDevice => simp only [openNode, opened, hnode]
  | fullDevice => simp only [openNode, opened, hnode]
  | directory => cases h
  | link => cases h
  | interpreter => cases h

theorem openNode_of_not_writable {l : Location} {n : Node} (h : n.isWritable = false)
    (append : Bool) : ∃ cause, fs.openNode l append n = .error cause := by
  cases n with
  | file content mode =>
    have hwrites : mode.ownerWrites = false := h
    exact ⟨.accessDenied, by simp only [openNode, hwrites]; rfl⟩
  | nullDevice => cases h
  | fullDevice => cases h
  | directory => exact ⟨_, rfl⟩
  | link => exact ⟨_, rfl⟩
  | interpreter => exact ⟨_, rfl⟩

/-- **A path that can be opened** is opened where it leads, and nothing else is touched. -/
theorem openToWrite_of_canOpen {wd : Position} {path : Path} (h : fs.canOpen wd path = true)
    (append : Bool) :
    ∃ l, fs.leadsTo? wd path = some l ∧
      fs.openToWrite wd path append = .ok (fs.opened l append, ⟨l, 0, append⟩) := by
  unfold canOpen at h
  split at h
  · next place hresolve =>
    cases place with
    | found p =>
      obtain ⟨hremoved, n, hnode, hwritable⟩ := nodeAt?_of_accepts h
      have hat : fs.nodeAt? p = some n := by rw [nodeAt?, if_pos hremoved, hnode]
      refine ⟨p.location, ?_, ?_⟩
      · simp only [leadsTo?, hresolve, hremoved, if_true]
      · simp only [openToWrite, hresolve, hat, bind, Except.bind]
        exact openNode_of_writable hnode hwritable append
    | free dir n =>
      have hdir : fs.node? dir = some (.directory true) := eq_of_beq h
      refine ⟨dir ++ [n], ?_, ?_⟩
      · simp only [leadsTo?, hresolve]
      · simp only [openToWrite, hresolve, bind, Except.bind]
        rw [createFile, hdir, opened, resolve_free hresolve]
  · cases h

theorem openToWrite_of_refused {wd : Position} {path : Path} (h : fs.canOpen wd path = false)
    (append : Bool) : ∃ cause, fs.openToWrite wd path append = .error cause := by
  unfold canOpen at h
  split at h
  · next place hresolve =>
    simp only [openToWrite, hresolve, bind, Except.bind]
    cases place with
    | found p =>
      replace h : (fs.nodeAt? p).any Node.isWritable = false := h
      dsimp only
      cases hnode : fs.nodeAt? p with
      | none => exact ⟨_, rfl⟩
      | some n =>
        rw [hnode] at h
        exact openNode_of_not_writable h append
    | free dir n =>
      replace h : (fs.node? dir == some (.directory true)) = false := h
      dsimp only
      unfold createFile
      split
      · next hdir =>
        rw [hdir] at h
        cases h
      · exact ⟨_, rfl⟩
  · next fault hresolve => exact ⟨fault, by simp only [openToWrite, hresolve, bind, Except.bind]⟩

/-- Where a path leads does not change because something is written. -/
theorem Written.leadsTo?_eq (h : fs.Written fs') (wd : Position) (path : Path) :
    fs'.leadsTo? wd path = fs.leadsTo? wd path := by
  have hway := resolve_sameWay h wd .create path
  unfold leadsTo?
  generalize fs.resolve wd .create path = r at hway
  generalize fs'.resolve wd .create path = r' at hway
  cases hway with
  | same => rfl
  | created => rfl
  | blocked => rfl

end FileSystem

/-! ## Growth -/

/-- What a log makes of what stands at a location: a file may have a longer content. -/
inductive Node.Grown : Option Node → Option Node → Prop where
  | same (n : Option Node) : Grown n n
  | added (content more : Bytes) (mode : Mode) :
      Grown (some (.file content mode)) (some (.file (content ++ more) mode))

theorem Node.Grown.trans {n n' n'' : Option Node} (h : Grown n n') (h' : Grown n' n'') :
    Grown n n'' := by
  cases h with
  | same => exact h'
  | added content more mode =>
    cases h' with
    | same => exact .added ..
    | added _ more' =>
      rw [List.append_assoc]
      exact .added ..

theorem Node.Grown.written {n n' : Option Node} (h : Grown n n') : Written n n' := by
  cases h with
  | same => exact .kept _
  | added => exact .filled ..

/-- An opening keeps the new content too, or neither. -/
theorem Node.Grown.opened {n n' : Option Node} (h : Grown n n') (append : Bool) :
    Grown (Node.opened append n) (Node.opened append n') := by
  cases h with
  | same => exact .same _
  | added =>
    cases append with
    | true => exact .added ..
    | false => exact .same _

theorem Node.Grown.any_isWritable {n n' : Option Node} (h : Grown n n') :
    n'.any Node.isWritable = n.any Node.isWritable := by cases h <;> rfl

namespace FileSystem

variable {fs fs' fs'' : FileSystem}

/-- The tree `fs'` is the tree `fs`, but that files may have become longer. -/
def Grown (fs fs' : FileSystem) : Prop := ∀ l, Node.Grown (fs.node? l) (fs'.node? l)

theorem Grown.refl (fs : FileSystem) : fs.Grown fs := fun _ => .same _

theorem Grown.trans (h : fs.Grown fs') (h' : fs'.Grown fs'') : fs.Grown fs'' :=
  fun l => (h l).trans (h' l)

theorem Grown.written (h : fs.Grown fs') : fs.Written fs' := fun l => (h l).written

theorem Grown.opened (h : fs.Grown fs') (l : Location) (append : Bool) :
    (fs.opened l append).Grown (fs'.opened l append) := by
  intro m
  by_cases hm : m = l
  · subst hm
    rw [node?_opened_self, node?_opened_self]
    exact (h m).opened append
  · rw [node?_opened_ne hm, node?_opened_ne hm]
    exact h m

/-- Nothing is there that was not there before. -/
theorem Grown.node?_eq_none (h : fs.Grown fs') {l : Location} (hl : fs.node? l = none) :
    fs'.node? l = none := by
  have hnode := h l
  rw [hl] at hnode
  generalize fs'.node? l = n at hnode
  cases hnode
  rfl

/-- Every path leads to the same place. -/
theorem Grown.resolve_eq (h : fs.Grown fs') (wd : Position) (purpose : Purpose) (path : Path) :
    fs'.resolve wd purpose path = fs.resolve wd purpose path := by
  have hway := resolve_sameWay h.written wd purpose path
  generalize fs.resolve wd purpose path = r at hway
  generalize fs'.resolve wd purpose path = r' at hway
  -- nothing new stands at the end of the way, or in the way
  cases hway with
  | same => rfl
  | created hfree _ hfile => cases (h.node?_eq_none hfree).symm.trans hfile
  | blocked _ _ hfree hnode => exact absurd (h.node?_eq_none hfree) hnode

theorem Grown.accepts_eq (h : fs.Grown fs') (place : Place) :
    fs'.accepts place = fs.accepts place := by
  cases place with
  | found p =>
    show (fs'.nodeAt? p).any _ = (fs.nodeAt? p).any _
    unfold nodeAt?
    split
    · exact (h p.location).any_isWritable
    · rfl
  | free dir n =>
    show (fs'.node? dir == _) = (fs.node? dir == _)
    have hnode := h dir
    generalize fs.node? dir = before at hnode
    generalize fs'.node? dir = after at hnode
    cases hnode <;> rfl

theorem Grown.canOpen_eq (h : fs.Grown fs') (wd : Position) (path : Path) :
    fs'.canOpen wd path = fs.canOpen wd path := by
  unfold canOpen
  rw [h.resolve_eq]
  split
  · exact h.accepts_eq _
  · rfl

/-- What is written at the end of a file is added to it. -/
theorem grown_write_append (fs : FileSystem) (l : Location) (offset : Nat) (bs : Bytes) :
    fs.Grown (fs.write ⟨l, offset, true⟩ bs).1 := by
  unfold write
  split
  · exact .refl fs
  split
  · next content mode hnode =>
    intro m
    by_cases hm : m = l
    · subst hm
      rw [node?_put_self (ne_root_of_node? hnode (by simp)), hnode, if_pos rfl, Bytes.overwrite_length]
      exact .added ..
    · rw [node?_put_ne hm]
      exact .same _
  · exact .refl fs
  · exact .refl fs

/-- Writing through a handle leaves all other locations alone. -/
theorem node?_write_ne {h : Handle} {m : Location} (hm : m ≠ h.location) (bs : Bytes) :
    (fs.write h bs).1.node? m = fs.node? m := by
  unfold write
  split
  · rfl
  split
  · exact node?_put_ne hm
  · rfl
  · rfl

end FileSystem

namespace World

/-! ## Targets -/

/-- Where the target of a redirection leads; no target leads anywhere. -/
def leadsTo? (w : World) (target : Option Path) : Option Location :=
  target.bind (w.files.leadsTo? w.workDir)

/-- Whether the target of a redirection can be opened; there is nothing to open without one. -/
def canOpen (w : World) (target : Option Path) : Bool := target.all (w.files.canOpen w.workDir)

/-- The world after the target of a redirection has been opened. -/
def openTarget (w : World) (target : Option Path) (append : Bool) : World :=
  match w.leadsTo? target with
  | none => w
  | some l => { w with files := w.files.opened l append }

/-- Where a stream goes with the target of a redirection, or without one. -/
def targetSink (w : World) (stream : Stream) (target : Option Path) (append : Bool) : Sink :=
  match w.leadsTo? target with
  | none => .console stream
  | some l => .file ⟨l, 0, append⟩

variable {w w' w'' : World}

/-- **A target that can be opened** is opened where it leads, and the stream goes there. -/
theorem openSink_of_canOpen {target : Option Path} (h : w.canOpen target = true) (stream : Stream)
    (append : Bool) :
    w.openSink stream target append =
      .ok (w.openTarget target append, w.targetSink stream target append) := by
  cases target with
  | none => rfl
  | some path =>
    obtain ⟨l, hleads, hopen⟩ := FileSystem.openToWrite_of_canOpen h append
    replace hleads : w.leadsTo? (some path) = some l := hleads
    simp only [openSink, openTarget, targetSink, hopen, hleads]

/-- **A target that cannot be opened** is what the failure tells of. -/
theorem openSink_of_refused {target : Option Path} (h : w.canOpen target = false) (append : Bool) :
    ∃ path cause, target = some path ∧
      ∀ stream, w.openSink stream target append = .error (.redirect path cause) := by
  cases target with
  | none => cases h
  | some path =>
    obtain ⟨cause, hopen⟩ := FileSystem.openToWrite_of_refused h append
    refine ⟨path, cause, rfl, ?_⟩
    intro stream
    simp only [openSink, hopen]

theorem openSink_eq_ok_iff {stream : Stream} {target : Option Path} {append : Bool} {sink : Sink} :
    w.openSink stream target append = .ok (w', sink) ↔
      w.canOpen target = true ∧ w' = w.openTarget target append ∧
        sink = w.targetSink stream target append := by
  cases h : w.canOpen target with
  | false =>
    obtain ⟨path, cause, -, hopen⟩ := openSink_of_refused h append
    rw [hopen]
    exact ⟨nofun, nofun⟩
  | true =>
    rw [openSink_of_canOpen h]
    constructor
    · intro heq
      cases heq
      exact ⟨rfl, rfl, rfl⟩
    · rintro ⟨-, rfl, rfl⟩
      rfl

theorem targetSink_of_leadsTo {target : Option Path} {l : Location} (h : w.leadsTo? target = some l)
    (stream : Stream) (append : Bool) : w.targetSink stream target append = .file ⟨l, 0, append⟩ := by
  rw [targetSink, h]

/-- A stream that goes to a file goes where its target leads, from the beginning. -/
theorem exists_of_targetSink_eq_file {stream : Stream} {target : Option Path} {append : Bool}
    {h : Handle} (hsink : w.targetSink stream target append = .file h) :
    ∃ l, w.leadsTo? target = some l ∧ h = ⟨l, 0, append⟩ := by
  unfold targetSink at hsink
  split at hsink
  · cases hsink
  · next l hl =>
    cases hsink
    exact ⟨l, hl, rfl⟩

theorem prepared_openTarget (w : World) (target : Option Path) (append : Bool) :
    w.Prepared (w.openTarget target append) := by
  unfold openTarget
  split
  · exact .refl w
  · exact ⟨w.files.written_opened _ _, rfl⟩

/-- Where a target leads has nothing to do with what is opened before. -/
theorem Prepared.leadsTo?_eq (h : w.Prepared w') (target : Option Path) :
    w'.leadsTo? target = w.leadsTo? target := by
  unfold leadsTo?
  rw [h.workDir, funext (h.files.leadsTo?_eq w.workDir)]

theorem Prepared.targetSink_eq (h : w.Prepared w') (stream : Stream) (target : Option Path)
    (append : Bool) : w'.targetSink stream target append = w.targetSink stream target append := by
  unfold targetSink
  rw [h.leadsTo?_eq]

/-- An opening leaves every location alone that the target does not lead to. -/
theorem node?_openTarget_ne {target : Option Path} {append : Bool} {l : Location}
    (h : w.leadsTo? target ≠ some l) :
    (w.openTarget target append).files.node? l = w.files.node? l := by
  unfold openTarget
  split
  · rfl
  · next m hleads =>
    refine FileSystem.node?_opened_ne ?_
    rintro rfl
    exact h hleads

theorem node?_openTarget_self {target : Option Path} {append : Bool} {l : Location}
    (h : w.leadsTo? target = some l) :
    (w.openTarget target append).files.node? l = Node.opened append (w.files.node? l) := by
  rw [openTarget, h]
  exact FileSystem.node?_opened_self ..

/-- Opening a target changes the files only. -/
theorem openTarget_rest (w : World) (target : Option Path) (append : Bool) :
    w.openTarget target append = { w with files := (w.openTarget target append).files } := by
  unfold openTarget
  split <;> rfl

/-! ## The log -/

/-- The world `w'` is the world `w`, but that there may be more in the log. -/
structure OnlyLogged (w w' : World) : Prop where
  rest : w' = { w with files := w'.files }
  grown : w.files.Grown w'.files
  /-- Only the log file has grown. -/
  elsewhere : ∀ l, w.logger.map Logger.location ≠ some l → w'.files.node? l = w.files.node? l
  /-- Without a log, there is no change at all. -/
  off : w.logger = none → w' = w

theorem OnlyLogged.refl (w : World) : w.OnlyLogged w := ⟨rfl, .refl _, fun _ _ => rfl, fun _ => rfl⟩

theorem OnlyLogged.logger_eq (h : w.OnlyLogged w') : w'.logger = w.logger := by rw [h.rest]

theorem OnlyLogged.trans (h : w.OnlyLogged w') (h' : w'.OnlyLogged w'') : w.OnlyLogged w'' where
  rest := by rw [h'.rest, h.rest]
  grown := h.grown.trans h'.grown
  elsewhere l hl := (h'.elsewhere l (h.logger_eq ▸ hl)).trans (h.elsewhere l hl)
  off hoff := (h'.off (h.logger_eq.trans hoff)).trans (h.off hoff)

theorem onlyLogged_log (w : World) (e : Event) : w.OnlyLogged (w.log e) := by
  unfold log
  split
  · exact .refl w
  · next logger hlogger =>
    split
    · refine ⟨rfl, w.files.grown_write_append _ _ _, ?_, fun hoff => ?_⟩
      · intro l hl
        refine FileSystem.node?_write_ne ?_ _
        rintro rfl
        exact hl (by rw [hlogger]; rfl)
      · cases hlogger.symm.trans hoff
    · exact .refl w

theorem OnlyLogged.prepared (h : w.OnlyLogged w') : w.Prepared w' :=
  ⟨h.grown.written, by rw [h.rest]⟩

theorem OnlyLogged.prepared_openTarget (h : w.OnlyLogged w') (target : Option Path) (append : Bool) :
    w.Prepared (w'.openTarget target append) := h.prepared.trans (World.prepared_openTarget ..)

/-- The log makes no difference to what can be opened. -/
theorem OnlyLogged.canOpen_eq (h : w.OnlyLogged w') (target : Option Path) :
    w'.canOpen target = w.canOpen target := by
  unfold canOpen
  rw [h.prepared.workDir, funext (h.grown.canOpen_eq w.workDir)]

/-- The same target opened in both worlds. -/
theorem OnlyLogged.openTarget (h : w.OnlyLogged w') (target : Option Path) (append : Bool) :
    (w.openTarget target append).OnlyLogged (w'.openTarget target append) := by
  unfold World.openTarget
  rw [h.prepared.leadsTo?_eq]
  split
  · exact h
  · next l hleads =>
    refine ⟨by rw [h.rest], h.grown.opened l append, ?_, fun hoff => by rw [h.off hoff]⟩
    intro m hm
    by_cases hml : m = l
    · subst hml
      show (w'.files.opened m append).node? m = (w.files.opened m append).node? m
      rw [FileSystem.node?_opened_self, FileSystem.node?_opened_self, h.elsewhere m hm]
    · show (w'.files.opened l append).node? m = (w.files.opened l append).node? m
      rw [FileSystem.node?_opened_ne hml, FileSystem.node?_opened_ne hml, h.elsewhere m hm]

/-! ## Commands -/

variable {c : Command}

/-- A command without a name does nothing. -/
theorem execute_of_no_name (hname : c.name = []) (launch : Launcher) (settings : Settings)
    (w : World) : w.execute launch settings c = (w, .ok .goOn) := by
  have hempty : c.isEmpty = true := List.isEmpty_iff.mpr hname
  rw [execute, if_pos hempty]

theorem execute_of_name (hname : c.name ≠ []) (launch : Launcher) (settings : Settings) (w : World) :
    w.execute launch settings c =
      match (w.log (.dispatched c)).openStreams c with
      | (w, .error failure) => (w.log (.targetRefused c.name failure), .error failure)
      | (w, .ok (out, err)) => w.perform launch settings c.name c.args out err := by
  have hnot : ¬ c.isEmpty = true := fun h => hname (List.isEmpty_iff.mp h)
  exact if_neg hnot

/-- **The standard output is refused**: only the log tells. -/
theorem execute_of_stdout_refused (hname : c.name ≠ []) (h : w.canOpen c.stdout = false) :
    ∃ path cause, c.stdout = some path ∧ ∀ launch settings, w.execute launch settings c =
      ((w.log (.dispatched c)).log (.targetRefused c.name (.redirect path cause)),
        .error (.redirect path cause)) := by
  have hlog := onlyLogged_log w (.dispatched c)
  obtain ⟨path, cause, htarget, hopen⟩ := openSink_of_refused ((hlog.canOpen_eq _).trans h) c.append
  refine ⟨path, cause, htarget, ?_⟩
  intro launch settings
  rw [execute_of_name hname, openStreams, hopen]

/-- **The standard error is refused**, when the standard output has been opened. -/
theorem execute_of_stderr_refused (hname : c.name ≠ []) (hout : w.canOpen c.stdout = true)
    (h : (w.openTarget c.stdout c.append).canOpen c.stderr = false) :
    ∃ path cause, c.stderr = some path ∧ ∀ launch settings, w.execute launch settings c =
      (((w.log (.dispatched c)).openTarget c.stdout c.append).log
          (.targetRefused c.name (.redirect path cause)),
        .error (.redirect path cause)) := by
  have hlog := onlyLogged_log w (.dispatched c)
  have hopened := hlog.openTarget c.stdout c.append
  obtain ⟨path, cause, htarget, hopen⟩ :=
    openSink_of_refused ((hopened.canOpen_eq _).trans h) c.append
  refine ⟨path, cause, htarget, ?_⟩
  intro launch settings
  rw [execute_of_name hname, openStreams, openSink_of_canOpen ((hlog.canOpen_eq _).trans hout)]
  dsimp only
  rw [hopen]

/-- **Both streams are open**, and the command is carried out. -/
theorem execute_of_opened (hname : c.name ≠ []) (hout : w.canOpen c.stdout = true)
    (herr : (w.openTarget c.stdout c.append).canOpen c.stderr = true) (launch : Launcher)
    (settings : Settings) :
    w.execute launch settings c =
      (((w.log (.dispatched c)).openTarget c.stdout c.append).openTarget c.stderr c.append).perform
        launch settings c.name c.args (w.targetSink .out c.stdout c.append)
        (w.targetSink .err c.stderr c.append) := by
  have hlog := onlyLogged_log w (.dispatched c)
  have hopened := hlog.openTarget c.stdout c.append
  have hprepared := hlog.prepared_openTarget c.stdout c.append
  rw [execute_of_name hname, openStreams, openSink_of_canOpen ((hlog.canOpen_eq _).trans hout)]
  dsimp only
  rw [openSink_of_canOpen ((hopened.canOpen_eq _).trans herr)]
  dsimp only
  rw [hlog.prepared.targetSink_eq, hprepared.targetSink_eq]

end World

end CommandShell
