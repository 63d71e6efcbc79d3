import CommandShell.World.Name

/-!
# `CommandShell.World.FileSystem` — the tree of files

Directories, files, symbolic links and devices, each at its location. A location holds at most one
node, and the root is always a directory.

## Contents
- **Modes.** `Mode`, permission bits. The shell is taken to own all files and to have no privileges, so
  that the owner's bits decide what the system lets it do.
- **Nodes.** `Node`: what can stand at a location.
- **Trees.** `FileSystem.node?` looks a location up; `put` and `erase` change one. `node?_put_self`
  and `node?_put_ne` say what a change does to look-ups.
- **Directories.** `FileSystem.children` lists the names in a directory.
-/

namespace CommandShell

/-! ## Modes -/

/-- Permission bits: read, write and execute, for the owner, the group and all others. -/
abbrev Mode := Nat

namespace Mode

/-- The mode of a file that the shell creates: the owner may write it, all may read it. -/
def ordinary : Mode := 0o644

/-- Whether the owner may read. -/
def ownerReads (m : Mode) : Bool := m.testBit 8

/-- Whether the owner may write. -/
def ownerWrites (m : Mode) : Bool := m.testBit 7

/-- Whether the owner may execute. -/
def ownerExecutes (m : Mode) : Bool := m.testBit 6

/-- Whether anybody may execute. -/
def anyoneExecutes (m : Mode) : Bool := m.testBit 6 || m.testBit 3 || m.testBit 0

example : ordinary.anyoneExecutes = false ∧ ordinary.ownerWrites = true := by decide

end Mode

/-! ## Nodes -/

/-- What stands at a location. -/
inductive Node where
  /-- A directory; names can be added to it only if it is writable. -/
  | directory (writable : Bool)
  /-- A regular file. -/
  | file (content : Bytes) (mode : Mode)
  /-- A symbolic link. -/
  | link (target : Path)
  /-- The device that takes everything and keeps nothing. -/
  | nullDevice
  /-- The device that never has room. -/
  | fullDevice
  /-- The program that runs command scripts. -/
  | interpreter
  deriving DecidableEq, Repr

namespace Node

/-- Whether a node is a directory. -/
def isDirectory : Node → Bool
  | .directory _ => true
  | _ => false

/-- Whether a node is a regular file. -/
def isRegular : Node → Bool
  | .file _ _ | .interpreter => true
  | _ => false

/-- Whether a node is a regular file that its owner may execute. -/
def ownerExecutes : Node → Bool
  | .file _ mode => mode.ownerExecutes
  | .interpreter => true
  | _ => false

/-- Whether a node is a regular file that somebody may execute. -/
def isExecutable : Node → Bool
  | .file _ mode => mode.anyoneExecutes
  | .interpreter => true
  | _ => false

end Node

/-! ## Trees -/

/-- A tree of nodes, as a list of locations with what stands there. -/
structure FileSystem where
  entries : List (Location × Node)
  deriving DecidableEq

namespace FileSystem

/-- The tree with nothing below the root. -/
def empty : FileSystem := ⟨[]⟩

/-- What stands at a location. -/
def node? (fs : FileSystem) (l : Location) : Option Node :=
  if l = [] then some (.directory false) else fs.entries.lookup l

/-- Puts a node at a location, in place of what stood there. -/
def put (fs : FileSystem) (l : Location) (n : Node) : FileSystem :=
  ⟨(l, n) :: fs.entries.filter fun e => e.1 != l⟩

/-- Removes a location and everything below it. -/
def erase (fs : FileSystem) (l : Location) : FileSystem :=
  ⟨fs.entries.filter fun e => !l.isPrefixOf e.1⟩

/-- Whether a directory stands at a location. -/
def isDirectory (fs : FileSystem) (l : Location) : Bool :=
  (fs.node? l).any Node.isDirectory

theorem lookup_cons_ne {es : List (Location × Node)} {l m : Location} {n : Node} (h : m ≠ l) :
    ((l, n) :: es).lookup m = es.lookup m := by
  have hb : (m == l) = false := by simpa using h
  simp [List.lookup_cons, hb]

theorem lookup_filter_ne {es : List (Location × Node)} {l m : Location} (h : m ≠ l) :
    (es.filter fun e => e.1 != l).lookup m = es.lookup m := by
  induction es with
  | nil => rfl
  | cons e es ih =>
    obtain ⟨k, n⟩ := e
    by_cases hk : k = l
    · subst hk
      rw [lookup_cons_ne h, ← ih]
      simp
    · have hf : ((k, n) :: es).filter (fun e => e.1 != l) =
          (k, n) :: es.filter fun e => e.1 != l := by simp [hk]
      rw [hf, List.lookup_cons, List.lookup_cons, ih]

/-- What was put at a location stands there. -/
theorem node?_put_self {fs : FileSystem} {l : Location} {n : Node} (h : l ≠ []) :
    (fs.put l n).node? l = some n := by
  simp [put, node?, h]

/-- Other locations keep what they hold. -/
theorem node?_put_ne {fs : FileSystem} {l m : Location} {n : Node} (h : m ≠ l) :
    (fs.put l n).node? m = fs.node? m := by
  simp only [put, node?, lookup_cons_ne h, lookup_filter_ne h]

/-! ## Directories -/

/-- The name under which an entry stands directly in a directory, if it does. -/
def childName? (dir : Location) (l : Location) : Option Name :=
  if l.dropLast = dir then l.getLast? else none

/-- The names in a directory, in no particular order. -/
def children (fs : FileSystem) (dir : Location) : List Name :=
  fs.entries.filterMap fun e => childName? dir e.1

end FileSystem

end CommandShell
