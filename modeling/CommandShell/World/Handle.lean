import CommandShell.World.Walk

/-!
# `CommandShell.World.Handle` — open files

A handle is an open file with a place to read or write at. Two handles on one file know nothing of
each other: each writes at its own place, over what the other has written, unless it appends.

## Contents
- **Contents.** `Bytes.overwrite` puts bytes at a place in others; `overwrite_length` and
  `overwrite_nil` are the case of an appending write and of a first one.
- **Opening.** `FileSystem.openToWrite` creates a file that is missing, and empties one that is
  there unless the handle appends. `FileSystem.openToRead` opens what is there.
- **Writing.** `FileSystem.write` through a handle.
-/

namespace CommandShell

/-! ## Contents of files -/

/-- The bytes with `bs` written at a place: over what stands there, and after zeros if the place is
    beyond the end. -/
def Bytes.overwrite (content : Bytes) (place : Nat) (bs : Bytes) : Bytes :=
  content.take place ++ List.replicate (place - content.length) 0 ++ bs ++
    content.drop (place + bs.length)

/-- Written at the end, bytes are added. -/
@[simp] theorem Bytes.overwrite_length (content bs : Bytes) :
    Bytes.overwrite content content.length bs = content ++ bs := by
  simp [Bytes.overwrite]

/-- Written into nothing, bytes are all there is. -/
@[simp] theorem Bytes.overwrite_nil (bs : Bytes) : Bytes.overwrite [] 0 bs = bs := by
  simp [Bytes.overwrite]

/-! ## Handles -/

/-- An open file. -/
structure Handle where
  location : Location
  /-- Where the next read begins, and where the next write goes unless the handle appends. -/
  offset : Nat := 0
  /-- Whether every write goes to the end of the file. -/
  append : Bool := false
  deriving DecidableEq

namespace FileSystem

/-- Opens what stands at a location. -/
def openNode (fs : FileSystem) (l : Location) (append : Bool) :
    Node → Except Fault (FileSystem × Handle)
  | .directory _ => .error .isADirectory
  | .file _ mode =>
    if !mode.ownerWrites then .error .accessDenied
    else if append then .ok (fs, { location := l, append := true })
    else .ok (fs.put l (.file [] mode), { location := l })
  | .nullDevice | .fullDevice => .ok (fs, { location := l, append := append })
  | .interpreter => .error .accessDenied
  | .link _ => .error .tooManyLinks

/-- Creates an empty file under a free name. -/
def createFile (fs : FileSystem) (dir : Location) (n : Name) (append : Bool) :
    Except Fault (FileSystem × Handle) :=
  match fs.node? dir with
  | some (.directory true) =>
    .ok (fs.put (dir ++ [n]) (.file [] .ordinary), { location := dir ++ [n], append := append })
  | _ => .error .accessDenied

/-- Opens the file of a path for writing. -/
def openToWrite (fs : FileSystem) (wd : Position) (path : Path) (append : Bool) :
    Except Fault (FileSystem × Handle) := do
  match ← fs.resolve wd .create path with
  | .free dir n => fs.createFile dir n append
  | .found p =>
    match fs.nodeAt? p with
    | none => .error .noEntry
    | some n => fs.openNode p.location append n

/-- Opens what a path leads to for reading. -/
def openToRead (fs : FileSystem) (wd : Position) (path : Path) : Except Fault Handle := do
  let (p, n) ← fs.locate wd path
  match n with
  | .file _ mode => if mode.ownerReads then return ⟨p.location, 0, false⟩ else .error .accessDenied
  | _ => return ⟨p.location, 0, false⟩

/-- Writes through a handle. Writing nothing does nothing. -/
def write (fs : FileSystem) (h : Handle) (bs : Bytes) : FileSystem × Handle × Option Fault :=
  if bs = [] then (fs, h, none)
  else match fs.node? h.location with
    | some (.file content mode) =>
      let place := if h.append then content.length else h.offset
      (fs.put h.location (.file (content.overwrite place bs) mode),
        { h with offset := place + bs.length }, none)
    | some .fullDevice => (fs, h, some .noSpace)
    | _ => (fs, h, none)

end FileSystem

end CommandShell
