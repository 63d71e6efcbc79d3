import CommandShell.Proofs.World.Writing
import CommandShell.World.Standard

/-!
# `CommandShell.Proofs.Shell.Routes` — `type` tells what would run

What the dispatch does with a command can be told from what it does with any launcher: a builtin and a
name that leads nowhere never ask the launcher at all, and a program is what the launcher is asked for.
`type` looks a name up without running anything, and says the same, but for names with a slash: those
are started as they are, and `type` looks for them on the search path all the same.

## Contents
- **Outcomes.** `World.Handles`, `World.Starts` and `World.Refuses`, which exclude each other.
- **Routes.** `execute_route`: once its streams are open, the outcome of a command is its route.
- **Names.** `kindOf_of_route` for names without a slash, `route_of_slash` for the others.
- **Summary.** `type_tells_what_runs`.
-/

namespace CommandShell

/-! ## Outcomes -/

namespace World

/-- The command is carried out as the builtin `b`, and no launcher is asked. -/
def Handles (settings : Settings) (w : World) (c : Command) (b : Builtin) : Prop :=
  ∃ (w' : World) (out err : Sink), ∀ launch, w.execute launch settings c =
    w'.deliver (b.run settings w'.files w'.workDir c.args) out err

/-- The launcher is asked for the program at `path`, and for nothing else. -/
def Starts (settings : Settings) (w : World) (c : Command) (path : Path) : Prop :=
  ∃ (w' : World) (out err : Sink), ∀ launch, w.execute launch settings c =
    launchWith launch w' ⟨path, c.name, c.args, out, err⟩

/-- The command is not found, and no launcher is asked. -/
def Refuses (settings : Settings) (w : World) (c : Command) : Prop :=
  ∃ w' : World, ∀ launch, w.execute launch settings c = (w', .error (.commandNotFound c.name))

/-- The targets of a command's redirections can be opened. -/
def Opens (w : World) (c : Command) : Prop :=
  ∃ w' streams, (w.log (.dispatched c)).openStreams c = (w', .ok streams)

variable {settings : Settings} {w : World} {c : Command}

/-- What a command does, in the words of `type`. -/
def Does (settings : Settings) (w : World) (c : Command) : Builtin.Kind → Prop
  | .builtin => ∃ b, w.Handles settings c b
  | .program path => w.Starts settings c path
  | .unknown => w.Refuses settings c

/-- A command without redirections has no targets to open. -/
theorem opens_of_none (w : World) {c : Command} (hout : c.stdout = none) (herr : c.stderr = none) :
    w.Opens c := by
  refine ⟨w.log (.dispatched c), (.console .out, .console .err), ?_⟩
  unfold openStreams openSink
  rw [hout, herr]

/-- How a command ends if the program at `path` can be started, and no other. -/
theorem Starts.outcome {path : Path} (h : w.Starts settings c path) (program : Path) :
    (w.execute (fun w l => if l.program = program then .ok (w, .code 0) else .error .noEntry)
      settings c).2 = if path = program then .ok .goOn else .error (.commandNotFound c.name) := by
  obtain ⟨w', out, err, h⟩ := h
  rw [h, launchWith]
  by_cases hpath : path = program
  · rw [if_pos hpath, if_pos hpath]
  · rw [if_neg hpath, if_neg hpath]

theorem Starts.unique {path path' : Path} (h : w.Starts settings c path)
    (h' : w.Starts settings c path') : path = path' := by
  have houtcome := h.outcome path
  rw [h'.outcome path, if_pos rfl] at houtcome
  by_cases hpath : path' = path
  · exact hpath.symm
  · rw [if_neg hpath] at houtcome
    cases houtcome

/-- A command that does the same with every launcher starts nothing. -/
theorem Starts.not_same {path : Path} (h : w.Starts settings c path) {r : World × Except Failure Flow}
    (hsame : ∀ launch, w.execute launch settings c = r) : False := by
  -- two launchers tell: one that can start the program, and one that can start another only
  have hok := h.outcome path
  have herror := h.outcome (path ++ [Bytes.slash])
  have hne : path ≠ path ++ [Bytes.slash] := by simp
  rw [hsame, if_pos rfl] at hok
  rw [hsame, if_neg hne, hok] at herror
  cases herror

theorem Handles.not_refuses {b : Builtin} (h : w.Handles settings c b) : ¬ w.Refuses settings c := by
  rintro ⟨w'', hrefuses⟩
  obtain ⟨w', out, err, hhandles⟩ := h
  have launch : Launcher := fun _ _ => .error .noEntry
  have heq := congrArg Prod.snd ((hhandles launch).symm.trans (hrefuses launch))
  -- a builtin fails only where its text cannot be written
  unfold deliver Report.outcome at heq
  dsimp only at heq
  split at heq <;> cases heq

/-- **A command does one thing only.** -/
theorem Does.unique {k k' : Builtin.Kind} (h : w.Does settings c k) (h' : w.Does settings c k') :
    k = k' := by
  cases k with
  | builtin =>
    obtain ⟨b, h⟩ := h
    cases k' with
    | builtin => rfl
    | program path =>
      obtain ⟨_, _, _, hsame⟩ := h
      exact (Starts.not_same h' hsame).elim
    | unknown => exact absurd h' h.not_refuses
  | program path =>
    cases k' with
    | builtin =>
      obtain ⟨_, _, _, _, hsame⟩ := h'
      exact (Starts.not_same h hsame).elim
    | program path' => rw [Starts.unique h h']
    | unknown =>
      obtain ⟨_, hsame⟩ := h'
      exact (Starts.not_same h hsame).elim
  | unknown =>
    cases k' with
    | builtin =>
      obtain ⟨b, h'⟩ := h'
      exact absurd h h'.not_refuses
    | program path =>
      obtain ⟨_, hsame⟩ := h
      exact (Starts.not_same h' hsame).elim
    | unknown => rfl

/-! ## Routes -/

/-- **The route is taken**, in a world where nothing else has happened but that the command has been
    logged and its targets have been opened. -/
theorem execute_route (settings : Settings) (hname : c.name ≠ []) (hopens : w.Opens c) :
    ∃ w' : World, w.Prepared w' ∧
      match settings.route w'.files w'.workDir c.name with
      | .builtin b => w.Handles settings c b
      | .program path => w.Starts settings c path
      | .nothing => w.Refuses settings c := by
  obtain ⟨w', ⟨out, err⟩, hopen⟩ := hopens
  refine ⟨w', (prepared_log w _).trans (prepared_openStreams hopen), ?_⟩
  have hexecute (launch : Launcher) :
      w.execute launch settings c = w'.perform launch settings c.name c.args out err := by
    have hnot : ¬ c.isEmpty = true := fun h => hname (List.isEmpty_iff.mp h)
    rw [execute, if_neg hnot, hopen]
  unfold perform at hexecute
  -- the route is the same for every launcher
  split
  · next b hroute =>
    rw [hroute] at hexecute
    exact ⟨w', out, err, hexecute⟩
  · next path hroute =>
    rw [hroute] at hexecute
    exact ⟨w', out, err, hexecute⟩
  · next hroute =>
    rw [hroute] at hexecute
    exact ⟨w', hexecute⟩

end World

/-! ## Names -/

/-- What `type` would say of a route. -/
def Route.kind : Route → Builtin.Kind
  | .builtin _ => .builtin
  | .program path => .program path
  | .nothing => .unknown

/-- Without a slash, `type` looks a name up as the dispatch does. -/
theorem kindOf_eq_kind (settings : Settings) (fs : FileSystem) (wd : Position) {name : Text}
    (hslash : '/' ∉ name) :
    Builtin.kindOf settings fs wd name = (settings.route fs wd name).kind := by
  unfold Builtin.kindOf Settings.route
  cases Builtin.ofName? name with
  | some b => rfl
  | none =>
    dsimp only
    rw [if_neg hslash, if_neg (by simp)]
    cases fs.findExecutable wd settings.searchPath name <;> rfl

/-- No builtin has a slash in its name. -/
theorem Builtin.ofName?_of_slash {name : Text} (hslash : '/' ∈ name) : ofName? name = none := by
  cases h : ofName? name with
  | none => rfl
  | some b =>
    rw [← ofName?_eq_some_iff.mp h] at hslash
    cases b <;> exact absurd hslash (by decide)

/-- With a slash, a name is a path itself. -/
theorem route_of_slash (settings : Settings) (fs : FileSystem) (wd : Position) {name : Text}
    (hslash : '/' ∈ name) : settings.route fs wd name = .program (Utf8.encode name) := by
  rw [Settings.route, Builtin.ofName?_of_slash hslash]
  exact if_pos hslash

theorem isAbsolute_encode {name : Text} (h : name.head? = some '/') :
    Path.isAbsolute (Utf8.encode name) = true := by
  cases name with
  | nil => cases h
  | cons c rest =>
    cases h
    rfl

/-- An absolute name is never anything but itself on a search path. -/
theorem kindOf_of_absolute {settings : Settings} {fs : FileSystem} {wd : Position} {name : Text}
    (habsolute : name.head? = some '/') {path : Path}
    (h : Builtin.kindOf settings fs wd name = .program path) : path = Utf8.encode name := by
  have hslash : '/' ∈ name := List.mem_of_head? habsolute
  unfold Builtin.kindOf at h
  rw [Builtin.ofName?_of_slash hslash] at h
  split at h
  · cases h
  split at h
  · next found hfound =>
    cases h
    obtain ⟨dir, -, hjoin⟩ := List.mem_map.mp (List.mem_of_find?_eq_some hfound)
    rw [← hjoin, Path.join, if_pos (isAbsolute_encode habsolute)]
  · cases h

namespace World

variable {settings : Settings} {w : World} {c : Command}

/-- A builtin is carried out as what it is called. -/
theorem handles_of_name (hname : c.name ≠ []) (hopens : w.Opens c) {b : Builtin}
    (hb : b.name = c.name) : w.Handles settings c b := by
  obtain ⟨w', -, hroute⟩ := execute_route settings hname hopens
  rw [Settings.route, Builtin.ofName?_eq_some_iff.mpr hb] at hroute
  exact hroute

/-- A name with a slash is started as it is. -/
theorem starts_of_slash (settings : Settings) (hname : c.name ≠ []) (hopens : w.Opens c)
    (hslash : '/' ∈ c.name) :
    w.Starts settings c (Utf8.encode c.name) := by
  obtain ⟨w', -, hroute⟩ := execute_route settings hname hopens
  rw [route_of_slash settings w'.files w'.workDir hslash] at hroute
  exact hroute

/-- A command without a slash does what `type` says of its name. -/
theorem does_of_no_slash (hname : c.name ≠ []) (hopens : w.Opens c) (hslash : '/' ∉ c.name) :
    w.Does settings c (Builtin.kindOf settings w.files w.workDir c.name) := by
  obtain ⟨w', hprepared, hroute⟩ := execute_route settings hname hopens
  rw [← hprepared.kindOf_eq, kindOf_eq_kind _ _ _ hslash]
  cases hr : settings.route w'.files w'.workDir c.name with
  | builtin b =>
    rw [hr] at hroute
    exact ⟨b, hroute⟩
  | program path =>
    rw [hr] at hroute
    exact hroute
  | nothing =>
    rw [hr] at hroute
    exact hroute

end World

/-! ## Summary -/

/-- **`type` tells what runs.** What it says of the name of a command is what the command does, as long
    as its redirections can be opened: `type` names a builtin just if the shell carries the command out
    itself and starts nothing; for a name without a slash it names a path just if the program there is
    started, and says that the name is not found just if the command is not found, with nothing tried.
    A name with a slash is started as it is, whatever `type` says; if it is absolute, `type` at least
    names no other path.

    All this is about what `type` decides. The line that it prints says less: a program at the path
    `a shell builtin` looks like a builtin, and paths that are no text look alike. A program is started
    when the launcher is asked for its path; one without a slash, from an empty entry of the search path,
    is looked up once more by the launcher (`Program.candidates`). -/
theorem type_tells_what_runs (settings : Settings) (w : World) (c : Command) (hname : c.name ≠ [])
    (hopens : w.Opens c) :
    let kind := Builtin.kindOf settings w.files w.workDir c.name
    (Builtin.type.run settings w.files w.workDir [c.name]).out = kind.describe c.name ++ ['\n'] ∧
      (kind = .builtin ↔ ∃ b, w.Handles settings c b) ∧
      (∀ b : Builtin, b.name = c.name → w.Handles settings c b) ∧
      ('/' ∉ c.name →
        (∀ path, kind = .program path ↔ w.Starts settings c path) ∧
          (kind = .unknown ↔ w.Refuses settings c)) ∧
      ('/' ∈ c.name → w.Starts settings c (Utf8.encode c.name)) ∧
      (c.name.head? = some '/' → ∀ path, kind = .program path → path = Utf8.encode c.name) := by
  intro kind
  by_cases hslash : '/' ∈ c.name
  · have hstarts := World.starts_of_slash settings hname hopens hslash
    have hnone := Builtin.ofName?_of_slash hslash
    have hkind : kind ≠ .builtin := by
      intro h
      unfold kind Builtin.kindOf at h
      rw [hnone] at h
      split at h
      · next hsome => cases hsome
      · split at h <;> cases h
    have hhandles (b : Builtin) : ¬ w.Handles settings c b :=
      fun ⟨_, _, _, hsame⟩ => hstarts.not_same hsame
    refine ⟨rfl, ⟨fun h => absurd h hkind, fun ⟨b, hb⟩ => absurd hb (hhandles b)⟩, ?_,
      fun h => absurd hslash h, fun _ => hstarts, fun habsolute _ => kindOf_of_absolute habsolute⟩
    intro b hb
    rw [Builtin.ofName?_eq_some_iff.mpr hb] at hnone
    cases hnone
  · have hdoes : w.Does settings c kind := World.does_of_no_slash hname hopens hslash
    -- a command does one thing only, so that it does what `type` says and nothing else
    have hiff (k : Builtin.Kind) : kind = k ↔ w.Does settings c k :=
      ⟨fun h => h ▸ hdoes, fun h => hdoes.unique h⟩
    exact ⟨rfl, hiff .builtin, fun _ => World.handles_of_name hname hopens,
      fun _ => ⟨fun path => hiff (.program path), hiff .unknown⟩, fun h => absurd h hslash,
      fun habsolute _ => kindOf_of_absolute habsolute⟩

/-- A world with two programs, of which one stands in `/bin`. -/
def World.twoPrograms : World where
  files := ((FileSystem.empty.place "/bin" (.directory false)).place "/bin/tool"
    (.file [] 0o755)).place "/run" (.file [] 0o755)
  workDir := .root

/-- The settings of a shell that looks for programs in `/bin`. -/
def Settings.searchBin : Settings :=
  .ofEnvironment [(Environment.searchPathName, Utf8.encode "/bin".toList)]

/-- A program on the search path is named by `type`, and it is the one that is started. -/
theorem type_tells_program :
    let c : Command := { name := "tool".toList, args := ["x".toList] }
    let path := Utf8.encode "/bin/tool".toList
    c.name ≠ [] ∧ World.twoPrograms.Opens c ∧
      Builtin.kindOf .searchBin World.twoPrograms.files World.twoPrograms.workDir c.name =
        .program path ∧
      World.twoPrograms.Starts .searchBin c path := by
  intro c path
  have hname : c.name ≠ [] := by decide
  have hopens : World.twoPrograms.Opens c := World.opens_of_none _ rfl rfl
  have hkind : Builtin.kindOf .searchBin World.twoPrograms.files World.twoPrograms.workDir c.name =
      .program path := by decide +kernel
  obtain ⟨-, -, -, htells, -⟩ := type_tells_what_runs .searchBin .twoPrograms c hname hopens
  exact ⟨hname, hopens, hkind, ((htells (by decide)).1 path).mp hkind⟩

/-- With a slash, `type` does not tell: it knows nothing of a name that is started all the same. -/
theorem type_unknown_but_started :
    let c : Command := { name := "./run".toList }
    let path := Utf8.encode "./run".toList
    let kind := Builtin.kindOf .searchBin World.twoPrograms.files World.twoPrograms.workDir c.name
    c.name ≠ [] ∧ World.twoPrograms.Opens c ∧
      ¬ (kind = .program path ↔ World.twoPrograms.Starts .searchBin c path) ∧
      ¬ (kind = .unknown ↔ World.twoPrograms.Refuses .searchBin c) := by
  intro c path kind
  have hname : c.name ≠ [] := by decide
  have hopens : World.twoPrograms.Opens c := World.opens_of_none _ rfl rfl
  have hkind : kind = .unknown := by decide +kernel
  have hstarts := World.starts_of_slash .searchBin hname hopens (by decide)
  have hnot : ¬ World.twoPrograms.Refuses .searchBin c := fun ⟨_, hsame⟩ => hstarts.not_same hsame
  refine ⟨hname, hopens, fun h => ?_, fun h => hnot (h.mp hkind)⟩
  cases hkind.symm.trans (h.mpr hstarts)

end CommandShell
