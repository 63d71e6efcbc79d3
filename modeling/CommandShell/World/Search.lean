import CommandShell.Builtin.Basic
import CommandShell.Completion.Registry
import CommandShell.Log
import CommandShell.World.Walk

/-!
# `CommandShell.World.Search` — programs on the search path

Two ways to use the directories of a search path: looking one name up, and listing all the names
that could be looked up.

## Contents
- **Look-up.** `FileSystem.findExecutable` tries the directories in order and returns the path of
  the first executable file.
- **Scan.** `FileSystem.programsIn` lists the executable files of one directory whose names are
  text, and `FileSystem.scan` makes a registry of those of all directories, with the builtins. A
  directory that cannot be listed is skipped.
-/

namespace CommandShell

namespace FileSystem

/-! ## Look-up -/

/-- The path of the first executable file of that name in the directories of a search path. -/
def findExecutable (fs : FileSystem) (wd : Position) (searchPath : List Path) (name : Text) :
    Option Path :=
  (searchPath.map fun dir => dir.join (Utf8.encode name)).find? (fs.isExecutable wd)

/-! ## Scan -/

/-- The names of the executable files in a directory, as far as they are text. -/
def programsIn (fs : FileSystem) (wd : Position) (dir : Path) : Except Fault (List Text) := do
  let names ← fs.list wd dir
  return (names.filter fun n => fs.isExecutable wd (dir.join n.bytes)).filterMap fun n =>
    Utf8.decode? n.bytes

/-- The programs in a directory; none, if it cannot be listed. -/
def programsOrNone (fs : FileSystem) (wd : Position) (dir : Path) : List Text :=
  (fs.programsIn wd dir).toOption.getD []

/-- What the log learns of a directory of the search path. -/
def skipEvent? (fs : FileSystem) (wd : Position) (dir : Path) : Option Event :=
  match fs.programsIn wd dir with
  | .ok _ => none
  | .error cause => some (.skipped dir cause)

/-- The builtins and all programs in the directories of a search path. -/
def scan (fs : FileSystem) (wd : Position) (searchPath : List Path) : Registry :=
  Registry.ofNames (Builtin.names ++ searchPath.flatMap (fs.programsOrNone wd))

/-- What the log learns of a scan: the directories that were skipped, and how many names there are
    beside the builtins. -/
def scanEvents (fs : FileSystem) (wd : Position) (searchPath : List Path) : List Event :=
  searchPath.filterMap (fs.skipEvent? wd) ++
    [.scanned ((fs.scan wd searchPath).size - Builtin.names.length) searchPath.length]

end FileSystem

end CommandShell
