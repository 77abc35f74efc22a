/-
**What became of a tree.**

`FileTree.changes` lists what leads from one tree to another that has the same directories and links:
the files to write and the entries to remove.
-/

import Retarget.FileTree.Basic

namespace Retarget

/-- One difference between two trees. -/
inductive Change where
  | write (location : Location) (content : Bytes)
  | remove (location : Location)
  deriving DecidableEq

/-- The path of a location. -/
def Location.path (location : Location) : Path :=
  Path.render (.root :: location.reverse.map fun name => .name name.bytes)

namespace FileTree

/-- The files of `after` that are not in `before` with the same content, and then the entries of
`before` that are gone. -/
def changes (before after : FileTree) : List Change :=
  let written := after.entries.filterMap fun (location, entry) =>
    match entry with
    | .file content =>
      if before.get? location = some entry then none else some (.write location content)
    | _ => none
  let removed := before.entries.filterMap fun (location, _) =>
    if after.get? location = none then some (.remove location) else none
  written ++ removed

end FileTree

end Retarget
