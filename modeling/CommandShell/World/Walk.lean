import CommandShell.Fault
import CommandShell.World.FileSystem

/-!
# `CommandShell.World.Walk` — from a path to a place

A path is followed part by part from the root or from the working directory, through symbolic
links, to the place that it names.

## Contents
- **Positions.** `Position` is a directory that a walk stands in, or that a process works in. Its
  directory may have been removed meanwhile; then it holds nothing, but the way up is still there.
- **Places.** `Place`: something that exists, or a free name in a directory.
- **Walks.** `FileSystem.walk` takes a budget of links to follow; `FileSystem.resolve` adds the
  rules for whole paths: no NUL, not empty, shorter than 4096 bytes, at most 40 links.
- **Queries.** `locate`, `stat`, `entry`, `isExecutable`, `read`, `list` and `enter` ask about the
  place of a path.
-/

namespace CommandShell

/-! ## Positions -/

/-- A directory: its location, and how many of the last names of that location have been removed
    from the tree since it was entered. -/
structure Position where
  location : Location
  removed : Nat := 0
  deriving DecidableEq

namespace Position

/-- The root. -/
def root : Position := ⟨[], 0⟩

/-- The directory above; the root is above itself. -/
def up (p : Position) : Position := ⟨p.location.dropLast, p.removed - 1⟩

/-- A name below a position. -/
def down (p : Position) (n : Name) : Position := ⟨p.location ++ [n], 0⟩

/-- The absolute path of a position that still exists. -/
def path? (p : Position) : Option Path := if p.removed = 0 then some p.location.path else none

end Position

/-- Where a path leads. -/
inductive Place where
  /-- To something that exists, or to a removed directory that is still in use. -/
  | found (at_ : Position)
  /-- To a name that is free in an existing directory. -/
  | free (dir : Location) (name : Name)
  deriving DecidableEq

/-! ## Walks -/

/-- What a path is followed for: to look at what is there, or to create a file if nothing is. -/
inductive Purpose where
  | look
  | create
  deriving DecidableEq, Repr

namespace FileSystem

/-- Whether a walk can go on from a position: it is a directory, be it a removed one. -/
def canEnter (fs : FileSystem) (p : Position) : Bool := p.removed != 0 || fs.isDirectory p.location

/-- The fault of a walk that cannot go on from where it stands. -/
def entryFault (fs : FileSystem) (p : Position) : Fault :=
  if (fs.node? p.location).isSome then .notADirectory else .noEntry

/-- Whether only slashes follow. -/
def onlySlashes (rest : List Bytes) : Bool := rest != [] && rest.all List.isEmpty

/-- Follows the parts of a path; `follow` goes on where a link leads. To create a file, its name
    must not be followed by a slash. -/
def walkParts (fs : FileSystem) (follow : Position → List Bytes → Except Fault Place)
    (purpose : Purpose) : Position → List Bytes → Except Fault Place
  | p, [] => .ok (.found p)
  | p, part :: rest =>
    if !fs.canEnter p then .error (fs.entryFault p)
    else if part = [] ∨ part = [Bytes.dot] then walkParts fs follow purpose p rest
    else if part = [Bytes.dot, Bytes.dot] then walkParts fs follow purpose p.up rest
    else if purpose = .create ∧ onlySlashes rest then .error .isADirectory
    else if p.removed ≠ 0 then .error .noEntry
    else match Name.ofBytes? part with
      | none => .error .nameTooLong
      | some n =>
        match fs.node? (p.location ++ [n]) with
        | none => if rest = [] then .ok (.free p.location n) else .error .noEntry
        | some (.link target) =>
          follow (if target.isAbsolute then .root else p) (target.parts ++ rest)
        | some _ => walkParts fs follow purpose (p.down n) rest

/-- Follows the parts of a path through at most `links` symbolic links. -/
def walk (fs : FileSystem) (purpose : Purpose) :
    (links : Nat) → Position → List Bytes → Except Fault Place
  | 0 => walkParts fs (fun _ _ => .error .tooManyLinks) purpose
  | links + 1 => walkParts fs (walk fs purpose links) purpose

/-- The number of bytes at which a path is too long. -/
def pathLimit : Nat := 4096

/-- The number of symbolic links that are followed on one path. -/
def linkLimit : Nat := 40

/-- The place of a path, seen from a working directory. -/
def resolve (fs : FileSystem) (wd : Position) (purpose : Purpose) (path : Path) :
    Except Fault Place :=
  if (0 : UInt8) ∈ path then .error .nulInPath
  else if path = [] then .error .noEntry
  else if pathLimit ≤ path.length then .error .nameTooLong
  else fs.walk purpose linkLimit (if path.isAbsolute then .root else wd) path.parts

/-! ## Queries -/

/-- What stands at a position. -/
def nodeAt? (fs : FileSystem) (p : Position) : Option Node :=
  if p.removed = 0 then fs.node? p.location else some (.directory false)

/-- The position that a path leads to, and what stands there. -/
def locate (fs : FileSystem) (wd : Position) (path : Path) : Except Fault (Position × Node) := do
  match ← fs.resolve wd .look path with
  | .free _ _ => .error .noEntry
  | .found p =>
    match fs.nodeAt? p with
    | none => .error .noEntry
    | some n => .ok (p, n)

/-- What stands at the place of a path. -/
def stat (fs : FileSystem) (wd : Position) (path : Path) : Except Fault Node := do
  return (← fs.locate wd path).2

/-- Whether a path leads to a regular file that somebody may execute. -/
def isExecutable (fs : FileSystem) (wd : Position) (path : Path) : Bool :=
  match fs.stat wd path with
  | .ok n => n.isExecutable
  | .error _ => false

/-- The bytes of the file that a path leads to; anything but a file has none. -/
def read (fs : FileSystem) (wd : Position) (path : Path) : Except Fault Bytes := do
  match ← fs.stat wd path with
  | .file content mode => if mode.ownerReads then .ok content else .error .accessDenied
  | _ => .ok []

/-- The directory that a path leads to. -/
def enter (fs : FileSystem) (wd : Position) (path : Path) : Except Fault Position := do
  match ← fs.resolve wd .look path with
  | .free _ _ => .error .noEntry
  | .found p => if fs.canEnter p then .ok p else .error (fs.entryFault p)

/-- What a path names itself: a link at its end is not followed. -/
def entry (fs : FileSystem) (wd : Position) (path : Path) : Except Fault Node := do
  let last := path.parts.getLast?.getD []
  match Name.ofBytes? last with
  | none => fs.stat wd path
  | some n =>
    let above := path.take (path.length - last.length)
    let dir ← if above = [] then .ok wd else fs.enter wd above
    match if dir.removed = 0 then fs.node? (dir.location ++ [n]) else none with
    | some node => .ok node
    | none => .error .noEntry

/-- The names in the directory that a path leads to; a removed directory has none. -/
def list (fs : FileSystem) (wd : Position) (path : Path) : Except Fault (List Name) := do
  let p ← fs.enter wd path
  return if p.removed = 0 then fs.children p.location else []

end FileSystem

end CommandShell
