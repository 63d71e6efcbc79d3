import CommandShell.Text.Utf8

/-!
# `CommandShell.World.Name` — names and locations

What a directory entry may be called, and where in the tree of directories something stands.

## Contents
- **Names.** `Name`: not empty, at most 255 bytes, without slash and NUL, and neither of the two
  names that mean a directory itself or the one above it.
- **Locations.** `Location`, the names from the root down; `Location.path` writes one as an absolute
  path.
- **Paths.** `Path.join` puts a name below a directory, and `Path.parts` cuts a path at its slashes.
-/

namespace CommandShell

/-! ## Names -/

/-- The longest name, in bytes. -/
def Name.maxLength : Nat := 255

/-- What the name of a directory entry may be. -/
def Name.Valid (bs : Bytes) : Prop :=
  bs ≠ [] ∧ bs.length ≤ Name.maxLength ∧ Bytes.slash ∉ bs ∧ (0 : UInt8) ∉ bs ∧
    bs ≠ [Bytes.dot] ∧ bs ≠ [Bytes.dot, Bytes.dot]

instance (bs : Bytes) : Decidable (Name.Valid bs) := by unfold Name.Valid; infer_instance

/-- The name of a directory entry. -/
structure Name where
  bytes : Bytes
  valid : Name.Valid bytes
  deriving DecidableEq

namespace Name

/-- The name that some bytes make, if they may be one. -/
def ofBytes? (bs : Bytes) : Option Name :=
  if h : Valid bs then some ⟨bs, h⟩ else none

@[simp] theorem ofBytes?_bytes (n : Name) : ofBytes? n.bytes = some n := by
  simp [ofBytes?, n.valid]

theorem ofBytes?_eq_some_iff {bs : Bytes} {n : Name} : ofBytes? bs = some n ↔ n.bytes = bs := by
  constructor
  · intro h
    unfold ofBytes? at h
    split at h
    · cases h; rfl
    · cases h
  · rintro rfl
    exact ofBytes?_bytes n

end Name

/-! ## Locations -/

/-- A place in the tree: the names on the way down from the root, which is the empty list. -/
abbrev Location := List Name

namespace Location

/-- The absolute path of a location. -/
def path (l : Location) : Path :=
  if l = [] then [Bytes.slash] else l.flatMap fun n => Bytes.slash :: n.bytes

end Location

/-! ## Paths -/

namespace Path

/-- Whether a path starts at the root. -/
def isAbsolute (p : Path) : Bool := p.head? == some Bytes.slash

/-- The path of `name` below `dir`: a slash is put between them unless there is one, and a name that
    is an absolute path stands for itself. -/
def join (dir name : Path) : Path :=
  if isAbsolute name then name
  else if dir = [] ∨ dir.getLast? = some Bytes.slash then dir ++ name
  else dir ++ [Bytes.slash] ++ name

/-- The parts of a path between its slashes, empty ones included. -/
def parts (p : Path) : List Bytes := Bytes.splitOn Bytes.slash p

/-- The path that some parts make. -/
def ofParts (ps : List Bytes) : Path := List.intercalate [Bytes.slash] ps

end Path

end CommandShell
