import CommandShell.World.Arrange
import CommandShell.World.Basic

/-!
# `CommandShell.World.Standard` — a tree to work in

The tree that a shell finds when it works in memory: the interpreter of scripts, the devices, and
the usual directories, which only the system may write to. The working directory lies below the
directory for temporary files.

## Contents
- **Locations.** `Location.ofPath?`, the location that an absolute path without links spells out.
- **Tree.** `FileSystem.standard`.
- **World.** `World.standard`, the world of a shell that starts in a directory of that tree.
-/

namespace CommandShell

/-- The location that the names of a path spell out from the root. -/
def Location.ofPath? (p : Path) : Option Location :=
  (p.parts.filter fun part => part != []).mapM Name.ofBytes?

namespace FileSystem

/-- Puts a node at the location of a path; a path that spells out none changes nothing. -/
def place (fs : FileSystem) (path : String) (n : Node) : FileSystem :=
  match Location.ofPath? (Utf8.encode path.toList) with
  | some l => fs.put l n
  | none => fs

/-- The directories that are there. -/
def systemDirectories : List String :=
  ["/dev", "/etc", "/home", "/opt", "/proc", "/run", "/srv", "/sys", "/usr", "/usr/bin", "/usr/lib",
   "/usr/local", "/usr/local/bin", "/usr/sbin", "/usr/share", "/var"]

/-- The directories that everybody may write to. -/
def sharedDirectories : List String := ["/tmp", "/var/tmp"]

/-- The links that are there, with their targets. -/
def systemLinks : List (String × String) :=
  [("/bin", "usr/bin"), ("/lib", "usr/lib"), ("/sbin", "usr/sbin")]

/-- The tree with nothing but what belongs to the system. -/
def standard : FileSystem :=
  let fs := systemDirectories.foldl (fun fs p => fs.place p (.directory false)) empty
  let fs := sharedDirectories.foldl (fun fs p => fs.place p (.directory true)) fs
  let fs := systemLinks.foldl (fun fs l => fs.place l.1 (.link (Utf8.encode l.2.toList))) fs
  let fs := (fs.place "/dev/null" .nullDevice).place "/dev/full" .fullDevice
  fs.place "/usr/bin/sh" .interpreter

end FileSystem

/-- The world of a shell that starts with some variables in a directory of the standard tree, which
    is made if it is not there. -/
def World.standard (dir : Path) (environment : Environment) : Except Fault World := do
  let files ← FileSystem.standard.makeDirectories .root dir
  let workDir ← files.enter .root dir
  return { files := files, workDir := workDir, environment := environment }

end CommandShell
