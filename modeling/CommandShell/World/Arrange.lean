import CommandShell.World.Handle

/-!
# `CommandShell.World.Arrange` — preparing a tree

The operations that lay out files before a shell works with them, and between its commands. Paths
are relative to a position, and missing directories on the way are made.

## Contents
- **Making.** `makeDirectories`, `makeFile` with its mode, and `makeLink`.
- **Removing.** `remove`, with everything below; `Position.afterRemoval` is what a removal means for
  a directory in use.
-/

namespace CommandShell

namespace Path

/-- The path of a path's parent: all of its parts but the last. -/
def parent (p : Path) : Path := ofParts p.parts.dropLast

/-- The paths that lead down to a path, the path itself last. -/
def stages (p : Path) : List Path :=
  (List.range p.parts.length).map fun n => ofParts (p.parts.take (n + 1))

end Path

namespace FileSystem

/-- Makes a directory unless there is one. -/
def makeDirectory (fs : FileSystem) (base : Position) (path : Path) : Except Fault FileSystem := do
  match ← fs.resolve base .look path with
  | .free dir n => .ok (fs.put (dir ++ [n]) (.directory true))
  | .found p => if fs.canEnter p then .ok fs else .error .alreadyExists

/-- Makes a directory and all those on the way to it. -/
def makeDirectories (fs : FileSystem) (base : Position) (path : Path) : Except Fault FileSystem :=
  (path.stages.filter fun p => p != []).foldlM (fun fs p => fs.makeDirectory base p) fs

/-- Makes a file of a content and a mode, or replaces the content and mode of one. -/
def makeFile (fs : FileSystem) (base : Position) (path : Path) (content : Bytes) (mode : Mode) :
    Except Fault FileSystem := do
  let fs ← fs.makeDirectories base path.parent
  let (fs, h) ← fs.openToWrite base path false
  match fs.node? h.location with
  | some (.file _ _) => return fs.put h.location (.file content mode)
  | _ => return fs

/-- The entry that a path names, without following a link at its end. -/
def entryOf (fs : FileSystem) (base : Position) (path : Path) : Except Fault Location := do
  let dir ← if path.parts.length = 1 then .ok base else fs.enter base path.parent
  match path.parts.getLast?.bind Name.ofBytes? with
  | some n => if dir.removed = 0 then .ok (dir.location ++ [n]) else .error .noEntry
  | none => .error .alreadyExists

/-- Makes a symbolic link. -/
def makeLink (fs : FileSystem) (base : Position) (path target : Path) :
    Except Fault FileSystem := do
  let fs ← fs.makeDirectories base path.parent
  let l ← fs.entryOf base path
  if (fs.node? l).isSome then .error .alreadyExists else return fs.put l (.link target)

/-- Removes what a path names, with everything below it; the location that is gone. Where nothing
    is, nothing is removed. -/
def remove (fs : FileSystem) (base : Position) (path : Path) :
    Except Fault (FileSystem × Option Location) :=
  match fs.entryOf base path with
  | .ok l => .ok (if (fs.node? l).isSome then (fs.erase l, some l) else (fs, none))
  | .error fault =>
    if fault = .noEntry ∨ fault = .notADirectory then .ok (fs, none) else .error fault

end FileSystem

/-- A directory in use after a location has been removed: if it stood at or below that location, all
    the names from there on are gone. -/
def Position.afterRemoval (p : Position) (l : Location) : Position :=
  if l.isPrefixOf p.location then
    { p with removed := max p.removed (p.location.length + 1 - l.length) }
  else p

end CommandShell
