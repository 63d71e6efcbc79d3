import CommandShell.Script.Pattern
import CommandShell.World.Walk

/-!
# `CommandShell.Script.PathPattern` — patterns of paths

A field that holds a pattern stands for the paths that match it, in order. A slash is matched by
itself only, and a full stop at the start of a name by a full stop in the pattern.

## Contents
- **Names.** `PathPattern.namesIn` lists the names of a directory that match.
- **Paths.** `PathPattern.pathsFrom` follows the parts of a pattern, and `PathPattern.paths` gives all
  matching paths of a field.
-/

namespace CommandShell

namespace Script

namespace PathPattern

/-! ## Names -/

/-- The names in a directory that match a pattern. -/
def namesIn (fs : FileSystem) (wd : Position) (dir : Text) (pattern : List Mark) : List Text :=
  let path := if dir = [] then [Bytes.dot] else toBytes dir
  match fs.list wd path with
  | .error _ => []
  | .ok names =>
    let all := ['.'] :: "..".toList :: names.map fun n => ofBytes n.bytes
    let showsHidden := pattern.head?.any fun m => m.char == '.'
    all.filter fun n =>
      (showsHidden || n.head? != some '.') && Pattern.accepts (Pattern.ofMarks pattern) n

/-! ## Paths -/

/-- The parts of a pattern between its slashes. -/
def parts : List Mark → List (List Mark)
  | [] => [[]]
  | m :: rest =>
    if m.char = '/' then [] :: parts rest
    else match parts rest with
      | [] => [[m]]
      | part :: more => (m :: part) :: more

/-- Whether there is something at a path, be it a link that leads nowhere. -/
def isThere (fs : FileSystem) (wd : Position) (path : Text) : Bool :=
  (fs.entry wd (toBytes path)).toOption.isSome

/-- The paths below a beginning that match the parts of a pattern. -/
def pathsFrom (fs : FileSystem) (wd : Position) : List (List Mark) → Text → List Text
  | [], path => if isThere fs wd path then [path] else []
  | [part], path =>
    if Pattern.isPattern part then (namesIn fs wd path part).map (path ++ ·)
    else
      let whole := path ++ Mark.toText part
      if isThere fs wd whole then [whole] else []
  | part :: rest, path =>
    if Pattern.isPattern part then
      (namesIn fs wd path part).flatMap fun n => pathsFrom fs wd rest (path ++ n ++ ['/'])
    else pathsFrom fs wd rest (path ++ Mark.toText part ++ ['/'])

/-- The paths that a field stands for: itself, if it is no pattern or if nothing matches. -/
def paths (fs : FileSystem) (wd : Position) (field : List Mark) : List Text :=
  if Pattern.isPattern field then
    match pathsFrom fs wd (parts field) [] with
    | [] => [Mark.toText field]
    | found => found.mergeSort fun a b => !decide (b < a)
  else [Mark.toText field]

end PathPattern

end Script

end CommandShell
