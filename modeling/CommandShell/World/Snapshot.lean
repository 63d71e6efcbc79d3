import CommandShell.World.Walk

/-!
# `CommandShell.World.Snapshot` — what changed in a tree

A listing of everything below a directory, and the difference between two listings.

## Contents
- **Listing.** `FileSystem.snapshot`, in increasing order of paths, each relative to the directory.
  A file that its owner may not read makes the listing impossible.
- **Difference.** `Snapshot.changes`: what is new or different, and what is gone.
-/

namespace CommandShell

/-- What a listing says of one path. Links are not followed. -/
inductive Content where
  | directory
  | file (bytes : Bytes)
  | link (target : Path)
  deriving DecidableEq, Repr

/-- A listing: relative paths with what stands there. -/
abbrev Snapshot := List (Path × Content)

namespace FileSystem

/-- What a listing says of a node; devices and the interpreter are not listed. -/
def contentOf : Node → Except Fault (Option Content)
  | .directory _ => .ok (some .directory)
  | .file bytes mode => if mode.ownerReads then .ok (some (.file bytes)) else .error .accessDenied
  | .link target => .ok (some (.link target))
  | .nullDevice | .fullDevice | .interpreter => .ok none

/-- The path of a location relative to a directory above it. -/
def relativePath? (dir l : Location) : Option Path :=
  if dir.isPrefixOf l ∧ dir ≠ l then
    some (Path.ofParts ((l.drop dir.length).map Name.bytes))
  else none

/-- The entries below a directory, in no particular order. -/
def listBelow (dir : Location) : List (Location × Node) → Except Fault Snapshot
  | [] => .ok []
  | (l, n) :: rest => do
    match relativePath? dir l with
    | none => listBelow dir rest
    | some p =>
      match ← contentOf n with
      | none => listBelow dir rest
      | some c => return (p, c) :: (← listBelow dir rest)

/-- Everything below a directory, in increasing order of paths. -/
def snapshot (fs : FileSystem) (dir : Location) : Except Fault Snapshot := do
  return (← listBelow dir fs.entries).mergeSort fun a b => decide (a.1 ≤ b.1)

end FileSystem

namespace Snapshot

/-- What differs between two listings: the new content of each path, or nothing where a path is
    gone. -/
def changes (before after : Snapshot) : List (Path × Option Content) :=
  let new := after.filterMap fun e =>
    if before.lookup e.1 = some e.2 then none else some (e.1, some e.2)
  let gone := before.filterMap fun e =>
    if (after.lookup e.1).isSome then none else some (e.1, none)
  (new ++ gone).mergeSort fun a b => decide (a.1 ≤ b.1)

end Snapshot

end CommandShell
