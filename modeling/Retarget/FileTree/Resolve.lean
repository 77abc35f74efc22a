/-
**Where a path leads.**

A path is followed step by step from a directory. A symbolic link puts the steps of its target in
front of those left, and forty links may be followed in all. What becomes of a link at the end of
the path depends on the purpose: it is followed to open a file, and kept to remove an entry.

* `FileTree.walk`: the steps from one directory;
* `FileTree.resolve`: a path, relative ones from the working directory.
-/

import Retarget.FileTree.Basic
import Retarget.FileTree.Error

namespace Retarget

/-- A step of a path. -/
inductive Step where
  | stay
  | up
  | enter (name : Name)
  /-- A segment that is too long for a name. -/
  | tooLong
  /-- A slash at the end of a path. -/
  | slash
  deriving DecidableEq

/-- The step that a segment without zero bytes asks for, if any. -/
def Step.ofSegment? (segment : Bytes) : Option Step :=
  if segment = [] then none
  else if segment = [Path.dot] then some .stay
  else if segment = [Path.dot, Path.dot] then some .up
  else match Name.ofBytes? segment with
    | some name => some (.enter name)
    | none => some .tooLong

/-- The steps of a path. -/
def Path.steps (path : Path) : List Step :=
  (segments Path.slash path).filterMap Step.ofSegment? ++
    if path.getLast? = some Path.slash then [.slash] else []

def Path.isAbsolute (path : Path) : Bool := path.head? == some Path.slash

/-- What a path is resolved for. -/
inductive Purpose where
  /-- To look at what it leads to. -/
  | look
  /-- To write a file, which need not be there. -/
  | create
  /-- To remove the entry that it names. -/
  | remove
  deriving DecidableEq

/-- What a path leads to. -/
inductive Place where
  | directory (location : Location)
  | file (location : Location) (content : Bytes)
  /-- A link that is not followed. -/
  | link (location : Location) (target : Path)
  /-- Nothing, in a directory that is there. -/
  | vacant (parent : Location) (name : Name)
  deriving DecidableEq

namespace FileTree

/-- Follows steps from the directory `here`, through at most `links` links. -/
def walk (tree : FileTree) (purpose : Purpose) (links : Nat) (here : Location) :
    List Step → Except FileError Place
  | [] => .ok (.directory here)
  | .stay :: rest | .slash :: rest => tree.walk purpose links here rest
  | .up :: rest => tree.walk purpose links here.tail rest
  | .tooLong :: rest =>
    .error (if purpose = .create ∧ rest = [.slash] then .isDirectory else .nameTooLong)
  | .enter name :: rest =>
    if purpose = .create ∧ rest = [.slash] then .error .isDirectory
    else match tree.get? (name :: here) with
      | none => if rest = [] then .ok (.vacant here name) else .error .missing
      | some .directory => tree.walk purpose links (name :: here) rest
      | some (.file content) =>
        if rest = [] then .ok (.file (name :: here) content) else .error .notDirectory
      | some (.link target) =>
        if purpose = .remove ∧ rest = [] then .ok (.link (name :: here) target)
        else match links with
          | 0 => .error .linkLoop
          | links + 1 =>
            tree.walk purpose links (if Path.isAbsolute target then [] else here)
              (Path.steps target ++ rest)
termination_by steps => (links, steps.length)

/-- What a path leads to from a working directory. -/
def resolve (tree : FileTree) (cwd : Location) (purpose : Purpose) (path : Path) :
    Except FileError Place :=
  if path.contains 0 then .error .zeroByte
  else if path = [] then .error .missing
  else if 4096 ≤ path.length then .error .nameTooLong
  else tree.walk purpose 40 (if path.isAbsolute then [] else cwd) path.steps

end FileTree

end Retarget
