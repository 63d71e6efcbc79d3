import CommandShell.Proofs.Completion.Exact
import CommandShell.Proofs.Text.Lossy
import CommandShell.Proofs.World.Tree

/-!
# `CommandShell.Proofs.World.Scanning` — the scan lists what the look-up finds

A scan lists directories and keeps the entries that are programs; a look-up puts one name below each
directory and asks whether there is a program. Both find the same names: a path with a name at its end goes
the way of the directory first, and then looks for an entry of that name.

## Contents
- **Parts.** `Path.parts_join` says what a name adds to the parts of a directory.
- **Walks.** `Lists`, said of a directory and the name of an entry; `stride_cons`, all that one part of a
  path can do; `walk_append`, a walk is made in two parts.
- **Entries.** `exists_of_resolve_join`, what the way to a name leads over; `lists_of_program`.
- **Names.** `mem_programsOrNone_iff` for one directory and `mem_scan_iff` for all.
- **Summary.** `scan_finds_what_runs`, which carries both over to what completion offers.
-/

namespace CommandShell

/-! ## Parts -/

namespace Bytes

/-- A separator starts a new part. -/
theorem splitOn_append_cons (separator : UInt8) (a b : Bytes) :
    splitOn separator (a ++ separator :: b) = splitOn separator a ++ splitOn separator b := by
  induction a with
  | nil =>
    show splitOn separator (separator :: b) = [] :: splitOn separator b
    rw [splitOn, if_pos rfl]
  | cons c a ih =>
    rw [List.cons_append, splitOn, splitOn, ih]
    by_cases hc : c = separator
    · rw [if_pos hc, if_pos hc]
      rfl
    · rw [if_neg hc, if_neg hc]
      cases hparts : splitOn separator a with
      | nil => exact absurd hparts (splitOn_ne_nil separator a)
      | cons part parts => rfl

theorem splitOn_of_not_mem {separator : UInt8} {bs : Bytes} (h : separator ∉ bs) :
    splitOn separator bs = [bs] := by
  induction bs with
  | nil => rfl
  | cons b bs ih =>
    rw [List.mem_cons, not_or] at h
    rw [splitOn, if_neg (Ne.symm h.1), ih h.2]

end Bytes

namespace Utf8

theorem slash_mem_encode_iff {t : Text} : Bytes.slash ∈ encode t ↔ '/' ∈ t := by
  constructor
  · intro h
    obtain ⟨c, hc, hmem⟩ := List.mem_flatMap.mp h
    have heq := eq_of_mem_encodeChar (b := Bytes.slash) (by decide) hmem
    exact heq ▸ hc
  · intro h
    exact List.mem_flatMap.mpr ⟨'/', h, by decide⟩

end Utf8

namespace Path

variable {dir bs : Path}

/-- A name without slashes is put behind the directory, after a slash if there is none. -/
theorem join_eq (hbs : Bytes.slash ∉ bs) :
    dir.join bs = if dir = [] ∨ dir.getLast? = some Bytes.slash then dir ++ bs
      else dir ++ Bytes.slash :: bs := by
  have hrelative : isAbsolute bs = false := by
    cases bs with
    | nil => rfl
    | cons b bs =>
      rw [List.mem_cons, not_or] at hbs
      exact beq_false_of_ne fun h => hbs.1 (Option.some.inj h).symm
  rw [join, hrelative]
  simp

theorem isPrefix_join (dir : Path) (hbs : Bytes.slash ∉ bs) : dir <+: dir.join bs := by
  rw [join_eq hbs]
  split <;> exact List.prefix_append _ _

/-- What starts with a path that is not empty starts at the root if the path does. -/
theorem isAbsolute_of_isPrefix {path : Path} (hdir : dir ≠ []) (h : dir <+: path) :
    isAbsolute path = isAbsolute dir := by
  obtain ⟨more, rfl⟩ := h
  cases dir with
  | nil => exact absurd rfl hdir
  | cons b dir => rfl

/-- **A name behind a directory** is one part more. A slash at the end of the directory is a part of its
    own, which the name takes the place of. -/
theorem parts_join (hdir : dir ≠ []) (hbs : Bytes.slash ∉ bs) :
    ∃ front, (dir.join bs).parts = front ++ [bs] ∧ (dir.parts = front ∨ dir.parts = front ++ [[]]) := by
  rw [join_eq hbs]
  by_cases hlast : dir.getLast? = some Bytes.slash
  · obtain ⟨above, rfl⟩ := List.getLast?_eq_some_iff.mp hlast
    refine ⟨parts above, ?_, .inr ?_⟩
    · rw [if_pos (.inr hlast), List.append_assoc, parts, List.singleton_append,
        Bytes.splitOn_append_cons, Bytes.splitOn_of_not_mem hbs]
      rfl
    · rw [parts, Bytes.splitOn_append_cons]
      rfl
  · refine ⟨dir.parts, ?_, .inl rfl⟩
    rw [if_neg (not_or.mpr ⟨hdir, hlast⟩), parts, Bytes.splitOn_append_cons,
      Bytes.splitOn_of_not_mem hbs]
    rfl

end Path

/-! ## Walks -/

namespace FileSystem

variable {fs : FileSystem} {wd p q : Position}

/-- A name in a directory is listed if something stands under it. -/
theorem mem_children {dir : Location} {n : Name} (h : (fs.node? (dir ++ [n])).isSome = true) :
    n ∈ fs.children dir := by
  have hne : dir ++ [n] ≠ [] := List.append_ne_nil_of_right_ne_nil dir (List.cons_ne_nil n [])
  rw [node?, if_neg hne, List.lookup_isSome_iff] at h
  obtain ⟨e, he, heq⟩ := h
  refine List.mem_filterMap.mpr ⟨e, he, ?_⟩
  rw [← eq_of_beq heq, childName?, List.dropLast_concat, if_pos rfl, List.getLast?_concat]

/-- There is an entry of this name in the directory. -/
def Lists (fs : FileSystem) (p : Position) (part : Bytes) : Prop :=
  p.removed = 0 ∧ ∃ n ∈ fs.children p.location, n.bytes = part

/-- What one part of a path leads to, whatever parts follow it. -/
inductive Stride (fs : FileSystem) (follow : Position → List Bytes → Except Fault Place) (p : Position)
    (part : Bytes) : Prop where
  | fails (fault : Fault) (h : ∀ rest, fs.walkParts follow .look p (part :: rest) = .error fault)
  | goesOn (q : Position) (hq : q = p ∨ q = p.up ∨ fs.Lists p part)
      (h : ∀ rest, fs.walkParts follow .look p (part :: rest) = fs.walkParts follow .look q rest)
  | follows (q : Position) (target : List Bytes) (hlists : fs.Lists p part)
      (h : ∀ rest, fs.walkParts follow .look p (part :: rest) = follow q (target ++ rest))
  | misses (l : Location) (n : Name)
      (h : ∀ rest, fs.walkParts follow .look p (part :: rest) =
        if rest = [] then .ok (.free l n) else .error .noEntry)

/-- Slashes at the end of a path are no fault unless something is to be created there. -/
theorem not_creates {rest : List Bytes} : ¬ (Purpose.look = .create ∧ onlySlashes rest = true) :=
  fun h => Purpose.noConfusion h.1

/-- A name leads to what stands in the directory under it. -/
theorem walkParts_name (follow : Position → List Bytes → Except Fault Place)
    (henter : fs.canEnter p = true) (hremoved : p.removed = 0) (n : Name) (rest : List Bytes) :
    fs.walkParts follow .look p (n.bytes :: rest) =
      match fs.node? (p.location ++ [n]) with
      | none => if rest = [] then .ok (.free p.location n) else .error .noEntry
      | some (.link target) => follow (if target.isAbsolute then .root else p) (target.parts ++ rest)
      | some _ => fs.walkParts follow .look (p.down n) rest := by
  obtain ⟨hne, -, -, -, hdot, hdots⟩ := n.valid
  have hgoes : ¬ (!fs.canEnter p) = true := by rw [henter]; exact Bool.false_ne_true
  rw [walkParts, if_neg hgoes, if_neg (not_or.mpr ⟨hne, hdot⟩), if_neg hdots,
    if_neg not_creates, if_neg (not_not_intro hremoved)]
  split
  · next hnone =>
    rw [Name.ofBytes?_bytes] at hnone
    cases hnone
  · next m hm =>
    obtain rfl : n = m := Option.some.inj ((Name.ofBytes?_bytes n).symm.trans hm)
    rfl

/-- **One part** ends the walk, leads on, or leads over a link; or nothing of that name is there. -/
theorem stride_cons (fs : FileSystem) (follow : Position → List Bytes → Except Fault Place)
    (p : Position) (part : Bytes) : fs.Stride follow p part := by
  cases henter : fs.canEnter p with
  | false =>
    refine .fails (fs.entryFault p) fun rest => ?_
    rw [walkParts, henter]
    rfl
  | true =>
  have hgoes : ¬ (!fs.canEnter p) = true := by rw [henter]; exact Bool.false_ne_true
  by_cases hhere : part = [] ∨ part = [Bytes.dot]
  · refine .goesOn p (.inl rfl) fun rest => ?_
    rw [walkParts, if_neg hgoes, if_pos hhere]
  by_cases habove : part = [Bytes.dot, Bytes.dot]
  · refine .goesOn p.up (.inr (.inl rfl)) fun rest => ?_
    rw [walkParts, if_neg hgoes, if_neg hhere, if_pos habove]
  by_cases hremoved : p.removed = 0
  · cases hname : Name.ofBytes? part with
    | none =>
      refine .fails .nameTooLong fun rest => ?_
      rw [walkParts, if_neg hgoes, if_neg hhere, if_neg habove, if_neg not_creates,
        if_neg (not_not_intro hremoved), hname]
    | some n =>
      obtain rfl := Name.ofBytes?_eq_some_iff.mp hname
      have hbelow := walkParts_name follow henter hremoved n
      cases hnode : fs.node? (p.location ++ [n]) with
      | none =>
        rw [hnode] at hbelow
        exact .misses p.location n hbelow
      | some node =>
        have hlists : fs.Lists p n.bytes :=
          ⟨hremoved, n, mem_children (by rw [hnode]; rfl), rfl⟩
        rw [hnode] at hbelow
        cases node with
        | link target => exact .follows _ _ hlists hbelow
        | _ => exact .goesOn (p.down n) (.inr (.inr hlists)) hbelow
  · refine .fails .noEntry fun rest => ?_
    rw [walkParts, if_neg hgoes, if_neg hhere, if_neg habove, if_neg not_creates, if_pos hremoved]

/-- A walk that comes to the end of some parts goes on from there, whatever parts follow; a walk that does
    not come there fails if any parts follow. -/
def WalksOn (fs : FileSystem) (walk : List Bytes → Except Fault Place) : Prop :=
  (∃ d links, walk [] = .ok (.found d) ∧ ∀ more, walk more = fs.walk .look links d more) ∨
    ∀ more, more ≠ [] → ∃ fault, walk more = .error fault

theorem WalksOn.congr {walk walk' : List Bytes → Except Fault Place} (h : fs.WalksOn walk')
    (hsame : ∀ more, walk more = walk' more) : fs.WalksOn walk := by
  rw [funext hsame]
  exact h

theorem walkParts_walksOn {follow : Position → List Bytes → Except Fault Place} {links : Nat}
    (hself : fs.walk .look links = fs.walkParts follow .look)
    (hfollow : ∀ p parts, fs.WalksOn fun more => follow p (parts ++ more)) (p : Position)
    (parts : List Bytes) : fs.WalksOn fun more => fs.walkParts follow .look p (parts ++ more) := by
  induction parts generalizing p with
  | nil => exact .inl ⟨p, links, rfl, fun more => by rw [hself]; rfl⟩
  | cons part rest ih =>
    cases fs.stride_cons follow p part with
    | fails fault h => exact .inr fun more _ => ⟨fault, h (rest ++ more)⟩
    | goesOn q _ h => exact (ih q).congr fun more => h (rest ++ more)
    | follows q target _ h =>
      refine (hfollow q (target ++ rest)).congr fun more => ?_
      rw [List.append_assoc]
      exact h (rest ++ more)
    | misses l n h =>
      refine .inr fun more hmore => ⟨.noEntry, ?_⟩
      exact (h (rest ++ more)).trans (if_neg fun hnil => hmore (List.append_eq_nil_iff.mp hnil).2)

theorem walk_walksOn (fs : FileSystem) (links : Nat) (p : Position) (parts : List Bytes) :
    fs.WalksOn fun more => fs.walk .look links p (parts ++ more) := by
  induction links generalizing p parts with
  | zero =>
    have hself : fs.walk .look 0 = fs.walkParts (fun _ _ => .error .tooManyLinks) .look := rfl
    exact walkParts_walksOn hself (fun _ _ => .inr fun _ _ => ⟨.tooManyLinks, rfl⟩) p parts
  | succ links ih =>
    have hself : fs.walk .look (links + 1) = fs.walkParts (fs.walk .look links) .look := rfl
    exact walkParts_walksOn hself ih p parts

/-- **Every walk can be cut in two**, between any two parts of its path. -/
theorem walk_append (fs : FileSystem) (links : Nat) (p : Position) (parts : List Bytes) :
    (∃ d links', fs.walk .look links p parts = .ok (.found d) ∧
      ∀ more, fs.walk .look links p (parts ++ more) = fs.walk .look links' d more) ∨
    ∀ more, more ≠ [] → ∃ fault, fs.walk .look links p (parts ++ more) = .error fault := by
  have h := fs.walk_walksOn links p parts
  rw [WalksOn, List.append_nil] at h
  exact h

/-! ## Entries -/

theorem walk_eq_walkParts (fs : FileSystem) (links : Nat) :
    ∃ follow, fs.walk .look links = fs.walkParts follow .look := by
  cases links with
  | zero => exact ⟨_, rfl⟩
  | succ links => exact ⟨_, rfl⟩

/-- A walk that goes on has come to a directory. -/
theorem canEnter_of_walk {links : Nat} {part : Bytes} {rest : List Bytes} {place : Place}
    (h : fs.walk .look links p (part :: rest) = .ok place) : fs.canEnter p = true := by
  obtain ⟨follow, hwalk⟩ := fs.walk_eq_walkParts links
  rw [hwalk, walkParts] at h
  cases henter : fs.canEnter p with
  | true => rfl
  | false =>
    rw [henter] at h
    cases h

theorem resolve_eq_ok_iff {path : Path} {place : Place} :
    fs.resolve wd .look path = .ok place ↔
      ((0 : UInt8) ∉ path ∧ path ≠ [] ∧ path.length < pathLimit) ∧
        fs.walk .look linkLimit (if path.isAbsolute then .root else wd) path.parts = .ok place := by
  unfold resolve
  split
  · next hnul => simp [hnul]
  split
  · next hempty => simp [hempty]
  split
  · next hlong => simp [Nat.not_lt_of_le hlong]
  · next hnul hempty hlong => simp [hnul, hempty, Nat.lt_of_not_le hlong]

theorem enter_eq_ok {path : Path} {d : Position} (h : fs.resolve wd .look path = .ok (.found d))
    (henter : fs.canEnter d = true) : fs.enter wd path = .ok d := by
  simp only [enter, h, bind, Except.bind, henter, if_true]

/-- **The way to a name** leads over the directory that it is put behind. -/
theorem exists_of_resolve_join {dir bs : Path} (hdir : dir ≠ []) (hbs : Bytes.slash ∉ bs)
    (h : fs.resolve wd .look (dir.join bs) = .ok (.found q)) :
    ∃ d links, fs.enter wd dir = .ok d ∧ fs.walk .look links d [bs] = .ok (.found q) := by
  have hstart := Path.isPrefix_join dir hbs
  obtain ⟨front, hjoin, hparts⟩ := Path.parts_join hdir hbs
  obtain ⟨⟨hnul, -, hshort⟩, hwalk⟩ := resolve_eq_ok_iff.mp h
  rw [Path.isAbsolute_of_isPrefix hdir hstart, hjoin] at hwalk
  -- the walk comes to the end of the directory's own parts, or there would be nothing behind them
  rcases fs.walk_append linkLimit (if dir.isAbsolute then .root else wd) front with
    ⟨d, links, hfront, hmore⟩ | hfails
  · rw [hmore] at hwalk
    have henter := canEnter_of_walk hwalk
    refine ⟨d, links, enter_eq_ok (resolve_eq_ok_iff.mpr ⟨⟨?_, hdir, ?_⟩, ?_⟩) henter, hwalk⟩
    · exact fun hmem => hnul (hstart.subset hmem)
    · exact Nat.lt_of_le_of_lt hstart.length_le hshort
    · rcases hparts with heq | heq
      · rw [heq, hfront]
      · -- a slash at the end of the directory leads nowhere else
        obtain ⟨follow, hfollow⟩ := fs.walk_eq_walkParts links
        rw [heq, hmore, hfollow, walkParts, henter]
        rfl
  · obtain ⟨fault, hfault⟩ := hfails [bs] (List.cons_ne_nil bs [])
    rw [hfault] at hwalk
    cases hwalk

/-- A directory is no program. -/
theorem isProgramAt_of_isDirectory (h : (fs.nodeAt? p).any Node.isDirectory = true) :
    fs.isProgramAt p = false := by
  unfold isProgramAt
  rcases hnode : fs.nodeAt? p with _ | node
  · rfl
  · rw [hnode] at h
    cases node with
    | directory => rfl
    | _ => cases h

/-- **A program in a directory** is listed under its name, which is neither `.` nor `..`. -/
theorem lists_of_program (hfs : fs.IsTree) {d : Position} (hd : d.Stands fs) {links : Nat}
    {bs : Bytes} (h : fs.walk .look links d [bs] = .ok (.found q))
    (hprogram : fs.isProgramAt q = true) : fs.Lists d bs := by
  have henter := canEnter_of_walk h
  have hnone {p : Position} (hq : p = q) (hdirectory : (fs.nodeAt? p).any Node.isDirectory = true) :
      False := by
    rw [← hq, isProgramAt_of_isDirectory hdirectory] at hprogram
    cases hprogram
  obtain ⟨follow, hwalk⟩ := fs.walk_eq_walkParts links
  rw [hwalk] at h
  cases fs.stride_cons follow d bs with
  | fails fault hfails =>
    rw [hfails] at h
    cases h
  | goesOn p hp hgoes =>
    have hend : p = q := Place.found.inj (Except.ok.inj ((hgoes []).symm.trans h))
    rcases hp with rfl | rfl | hlists
    · exact (hnone hend (isDirectory_of_canEnter henter)).elim
    · exact (hnone hend (isDirectory_up hfs hd henter)).elim
    · exact hlists
  | follows p target hlists hfollows => exact hlists
  | misses l n hmisses =>
    rw [hmisses] at h
    cases h

/-! ## Names -/

/-- What is listed of a directory that can be entered. -/
theorem mem_programsOrNone_of_enter {dir : Path} {d : Position} (h : fs.enter wd dir = .ok d)
    {n : Text} :
    n ∈ fs.programsOrNone wd dir ↔
      fs.Lists d (Utf8.encode n) ∧ fs.isExecutable wd (dir.join (Utf8.encode n)) = true := by
  have hlist : fs.list wd dir = .ok (if d.removed = 0 then fs.children d.location else []) := by
    rw [list, h]
    rfl
  have hprograms : fs.programsOrNone wd dir =
      ((if d.removed = 0 then fs.children d.location else []).filter fun entry =>
        fs.isExecutable wd (dir.join entry.bytes)).filterMap fun entry =>
          Utf8.decode? entry.bytes := by
    rw [programsOrNone, programsIn, hlist]
    rfl
  have hlists : (∃ entry ∈ (if d.removed = 0 then fs.children d.location else []),
      entry.bytes = Utf8.encode n) ↔ fs.Lists d (Utf8.encode n) := by
    by_cases hremoved : d.removed = 0
    · simp only [Lists, hremoved, if_true, true_and]
    · simp only [Lists, hremoved, if_false, List.not_mem_nil, false_and, exists_false]
  simp only [hprograms, List.mem_filterMap, List.mem_filter, Utf8.decode?_eq_some_iff, ← hlists]
  constructor
  · rintro ⟨entry, ⟨hentry, hexecutable⟩, hbytes⟩
    exact ⟨⟨entry, hentry, hbytes⟩, hbytes ▸ hexecutable⟩
  · rintro ⟨⟨entry, hentry, hbytes⟩, hexecutable⟩
    exact ⟨entry, ⟨hentry, hbytes ▸ hexecutable⟩, hbytes⟩

/-- **One directory**: the names that are listed are those that are found below it. -/
theorem mem_programsOrNone_iff (hfs : fs.IsTree) (hwd : wd.Stands fs) {dir : Path} {n : Text} :
    n ∈ fs.programsOrNone wd dir ↔
      dir ≠ [] ∧ n ≠ [] ∧ '/' ∉ n ∧ fs.isExecutable wd (dir.join (Utf8.encode n)) = true := by
  constructor
  · intro h
    cases henter : fs.enter wd dir with
    | error fault =>
      have hnone : fs.programsOrNone wd dir = [] := by
        rw [programsOrNone, programsIn, list, henter]
        rfl
      rw [hnone] at h
      cases h
    | ok d =>
      obtain ⟨⟨-, entry, -, hbytes⟩, hexecutable⟩ := (mem_programsOrNone_of_enter henter).mp h
      obtain ⟨hne, -, hslash, -⟩ := entry.valid
      rw [hbytes] at hne hslash
      refine ⟨?_, ?_, ?_, hexecutable⟩
      · rintro rfl
        cases henter
      · rintro rfl
        exact hne rfl
      · exact fun hmem => hslash (Utf8.slash_mem_encode_iff.mpr hmem)
  · rintro ⟨hdir, -, hslash, hexecutable⟩
    have hbs : Bytes.slash ∉ Utf8.encode n := fun hmem => hslash (Utf8.slash_mem_encode_iff.mp hmem)
    obtain ⟨q, hresolve, hprogram⟩ := isExecutable_iff.mp hexecutable
    obtain ⟨d, links, henter, hwalk⟩ := exists_of_resolve_join hdir hbs hresolve
    have hlists := lists_of_program hfs (enter_stands hwd henter) hwalk hprogram
    exact (mem_programsOrNone_of_enter henter).mpr ⟨hlists, hexecutable⟩

/-- A name is found on a search path if it is found in one of its directories. -/
theorem isSome_findExecutable_iff {searchPath : List Path} {n : Text} :
    (fs.findExecutable wd searchPath n).isSome = true ↔
      ∃ dir ∈ searchPath, fs.isExecutable wd (dir.join (Utf8.encode n)) = true := by
  rw [findExecutable, List.find?_isSome]
  constructor
  · rintro ⟨path, hpath, hexecutable⟩
    obtain ⟨dir, hdir, rfl⟩ := List.mem_map.mp hpath
    exact ⟨dir, hdir, hexecutable⟩
  · rintro ⟨dir, hdir, hexecutable⟩
    exact ⟨_, List.mem_map_of_mem hdir, hexecutable⟩

/-- **The names of a scan** are those of the builtins, and those that are found in a directory of the search
    path that is not the empty path. -/
theorem mem_scan_iff (hfs : fs.IsTree) (hwd : wd.Stands fs) {searchPath : List Path} {n : Text} :
    n ∈ (fs.scan wd searchPath).names ↔
      n ∈ Builtin.names ∨ (n ≠ [] ∧ '/' ∉ n ∧
        (fs.findExecutable wd (searchPath.filter fun dir => dir ≠ []) n).isSome = true) := by
  rw [scan, Registry.mem_ofNames, List.mem_append, List.mem_flatMap, isSome_findExecutable_iff]
  simp only [mem_programsOrNone_iff hfs hwd, List.mem_filter, decide_eq_true_eq]
  refine or_congr_right ?_
  constructor
  · rintro ⟨dir, hmem, hdir, hne, hslash, hexecutable⟩
    exact ⟨hne, hslash, dir, ⟨hmem, hdir⟩, hexecutable⟩
  · rintro ⟨hne, hslash, dir, ⟨hmem, hdir⟩, hexecutable⟩
    exact ⟨dir, hmem, hdir, hne, hslash, hexecutable⟩

end FileSystem

/-! ## Summary -/

/-- What is offered for a typed prefix leads to a name: the text to add continues it, up to the space behind
    it, or it is one of the choice. -/
inductive Completion.LeadsTo (p n : Text) : Completion → Prop where
  | direct (s : Text) (h : p ++ s <+: n ++ [' ']) : LeadsTo p n (.direct s)
  | choice (ns : List Text) (h : n ∈ ns) : LeadsTo p n (.choice ns)

/-- Whatever matches, the offer leads to it. -/
theorem Registry.complete_leadsTo {r : Registry} {p n : Text} (hp : p ≠ []) (hn : r.Matches p n) :
    (r.complete p).LeadsTo p n := by
  cases h : r.complete p with
  | noMatch =>
    have hnone := (complete_eq_noMatch_iff.mp h).resolve_left hp
    exact (withPrefix_eq_nil_iff.mp hnone n hn).elim
  | direct s => exact .direct s (isPrefix_of_complete_direct h hn)
  | choice ns =>
    refine .choice ns ?_
    rw [withPrefix_of_complete_choice h]
    exact mem_withPrefix.mpr hn

/-- **The scan finds what runs.** In a tree, the names that a scan of a search path finds are those of the
    builtins and those that are looked up with success below an entry that is not the empty path, whatever
    the entries are. So all that completion offers then is a builtin or is found on the search path, and all
    that is found below such an entry is offered for each start of its name. -/
theorem FileSystem.scan_finds_what_runs {fs : FileSystem} {wd : Position} (hfs : fs.IsTree)
    (hwd : wd.Stands fs) (searchPath : List Path) :
    (∀ n, n ∈ (fs.scan wd searchPath).names ↔
      n ∈ Builtin.names ∨ (n ≠ [] ∧ '/' ∉ n ∧
        (fs.findExecutable wd (searchPath.filter fun dir => dir ≠ []) n).isSome = true)) ∧
    (∀ p s, (fs.scan wd searchPath).complete p = .direct s → ∃ n, p ++ s <+: n ++ [' '] ∧
      (n ∈ Builtin.names ∨ (fs.findExecutable wd searchPath n).isSome = true)) ∧
    (∀ p ns, (fs.scan wd searchPath).complete p = .choice ns → ∀ n ∈ ns,
      n ∈ Builtin.names ∨ (fs.findExecutable wd searchPath n).isSome = true) ∧
    (∀ p n, p ≠ [] → p <+: n → '/' ∉ n →
      (fs.findExecutable wd (searchPath.filter fun dir => dir ≠ []) n).isSome = true →
      ((fs.scan wd searchPath).complete p).LeadsTo p n) := by
  have hnames (n : Text) := @mem_scan_iff fs wd hfs hwd searchPath n
  -- what is found on a part of the search path is found on the whole of it
  have hknown : ∀ n ∈ (fs.scan wd searchPath).names,
      n ∈ Builtin.names ∨ (fs.findExecutable wd searchPath n).isSome = true := by
    intro n hn
    refine ((hnames n).mp hn).imp_right ?_
    rintro ⟨-, -, hfound⟩
    obtain ⟨dir, hdir, hexecutable⟩ := isSome_findExecutable_iff.mp hfound
    exact isSome_findExecutable_iff.mpr ⟨dir, (List.mem_filter.mp hdir).1, hexecutable⟩
  refine ⟨hnames, ?_, ?_, ?_⟩
  · intro p s h
    obtain ⟨n, hn, hstart⟩ := Registry.exists_of_complete_direct h
    exact ⟨n, hstart, hknown n hn⟩
  · intro p ns h n hn
    rw [Registry.withPrefix_of_complete_choice h] at hn
    exact hknown n (Registry.mem_withPrefix.mp hn).1
  · intro p n hp hstart hslash hfound
    have hn : n ≠ [] := fun hnil => hp (List.prefix_nil.mp (hnil ▸ hstart))
    exact Registry.complete_leadsTo hp ⟨(hnames n).mpr (.inr ⟨hn, hslash, hfound⟩), hstart⟩

/-- A tree with a program, with a file of the same name that cannot be run, and with a program of which the
    name has a space in it. -/
def FileSystem.shadowed : FileSystem :=
  ((((empty.place "/a" (.directory true)).place "/b" (.directory true)).place "/a/tool"
    (.file [] 0o644)).place "/b/tool" (.file [] 0o755)).place "/b/my tool" (.link [0x74, 0x6F, 0x6F, 0x6C])

/-- A search path with an empty entry, one that is not there, one that is a file, and one twice. -/
def FileSystem.mixedPath : List Path :=
  ["", "/none", "/a/tool", "/a", "/b/", "/b"].map fun dir => Utf8.encode dir.toList

/-- Both programs are found, behind all that is in their way; the name with the space is offered whole, and
    what is offered for the other is no other command. -/
theorem FileSystem.scan_finds_what_runs_shadowed :
    shadowed.IsTree ∧ Position.root.Stands shadowed ∧
      "tool".toList ∈ (shadowed.scan .root mixedPath).names ∧
      "my tool".toList ∈ (shadowed.scan .root mixedPath).names ∧
      "note".toList ∉ (shadowed.scan .root mixedPath).names ∧
      ((shadowed.scan .root mixedPath).complete ['m']).LeadsTo ['m'] "my tool".toList := by
  have hfs : shadowed.IsTree := by decide +kernel
  have hwd : Position.root.Stands shadowed := stands_of_removed rfl
  have hspace : (shadowed.findExecutable .root (mixedPath.filter fun dir => dir ≠ [])
      "my tool".toList).isSome = true := by decide +kernel
  have htool : (shadowed.findExecutable .root (mixedPath.filter fun dir => dir ≠ [])
      "tool".toList).isSome = true := by decide +kernel
  have hnote : ¬ (shadowed.findExecutable .root (mixedPath.filter fun dir => dir ≠ [])
      "note".toList).isSome = true := by decide +kernel
  obtain ⟨hnames, -, -, hoffered⟩ := scan_finds_what_runs hfs hwd mixedPath
  refine ⟨hfs, hwd, ?_, ?_, ?_, ?_⟩
  · exact (hnames _).mpr (.inr ⟨by decide, by decide, htool⟩)
  · exact (hnames _).mpr (.inr ⟨by decide, by decide, hspace⟩)
  · intro hmem
    rcases (hnames _).mp hmem with hbuiltin | ⟨-, -, hfound⟩
    · exact absurd hbuiltin (by decide)
    · exact hnote hfound
  · exact hoffered ['m'] _ (by decide) (by decide) (by decide) hspace

end CommandShell
