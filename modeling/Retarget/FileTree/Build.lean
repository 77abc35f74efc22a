/-
**Building a tree entry by entry.**

`FileTree.plant` sets an entry at a path and makes the directories that are missing on the way;
links on the way are followed. `FileTree.uproot` takes away what a path names with all below it.
-/

import Retarget.FileTree.Access

namespace Retarget.FileTree

/-- The directory that a link leads to, if it leads to one. -/
def linkedDirectory? (tree : FileTree) (here : Location) (target : Path) : Option Location :=
  match tree.resolve here .look target with
  | .ok (.directory location) => some location
  | _ => none

/-- Goes down some steps from a directory and makes the directories that are missing. -/
def makeWay (tree : FileTree) (here : Location) : List Step → Option (FileTree × Location)
  | [] => some (tree, here)
  | .stay :: rest | .slash :: rest => tree.makeWay here rest
  | .up :: rest => tree.makeWay here.tail rest
  | .tooLong :: _ => none
  | .enter name :: rest =>
    match tree.get? (name :: here) with
    | none => (tree.put (name :: here) .directory).makeWay (name :: here) rest
    | some .directory => tree.makeWay (name :: here) rest
    | some (.file _) => none
    | some (.link target) => do
      let location ← tree.linkedDirectory? here target
      tree.makeWay location rest

/-- The tree with an entry set at a path. A file goes where a link at its place leads; where the
entry cannot be set the tree stays as it is. -/
def plant (tree : FileTree) (cwd : Location) (path : Path) (entry : Entry) : FileTree :=
  let start := if Path.isAbsolute path then [] else cwd
  let steps := (segments Path.slash path).filterMap Step.ofSegment?
  match tree.makeWay start steps.dropLast, steps.getLast? with
  | some (grown, parent), some (.enter name) =>
    match entry with
    | .file content =>
      match grown.walk .create 40 parent [.enter name] with
      | .ok (.file location _) => grown.put location (.file content)
      | .ok (.vacant home last) => grown.put (last :: home) (.file content)
      | _ => grown
    | .directory =>
      match grown.get? (name :: parent) with
      | none => grown.put (name :: parent) .directory
      | some _ => grown
    | .link target =>
      match grown.get? (name :: parent) with
      | none => grown.put (name :: parent) (.link target)
      | some _ => grown
  | _, _ => tree

/-- The tree without what a path names and all below it. -/
def uproot (tree : FileTree) (cwd : Location) (path : Path) : FileTree :=
  match tree.resolve cwd .remove path with
  | .ok (.directory location) | .ok (.file location _) | .ok (.link location _) =>
    tree.prune location
  | _ => tree

end Retarget.FileTree
