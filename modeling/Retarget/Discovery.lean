/-
**Finding the files to convert.**

The root has to be a directory. Below it every directory is visited whose name is not hidden; links
are not followed. The root and all directories that are visited have to be listed. A visited file is
a candidate when its name has a wanted ending and no token excludes its path, which starts with the
root as it is given.

* `Discovery.candidates`: the candidates, in the order of their paths;
* `Discovery.reached`: what is visited below a location, with the path it is reached by.
-/

import Retarget.Failure
import Retarget.FileTree.Resolve
import Retarget.Host
import Retarget.Ignore
import Retarget.Path.Order
import Retarget.Script

namespace Retarget

/-- A file to convert. -/
structure Candidate where
  path : Path
  source : Script.Source
  deriving DecidableEq, Repr

namespace Discovery

/-- The location of the root, which has to be a directory. -/
def locate (tree : FileTree) (cwd : Location) (root : Path) : Except Failure Location :=
  match tree.resolve cwd .look root with
  | .ok (.directory location) => .ok location
  | .ok (.vacant _ _) => .error (.missing root)
  | .ok _ => .error (.notDirectory root)
  | .error error => .error (if error = .missing then .missing root else .file error)

/-- The names that lead from one location down to another, outermost first. -/
def below? (home location : Location) : Option (List Name) :=
  if home.isSuffixOf location then some (location.take (location.length - home.length)).reverse
  else none

/-- The path that names below a root are reached by. -/
def pathOf (root : Path) (names : List Name) : Path :=
  names.foldl (fun path name => path.under name.bytes) root

/-- An entry below the root. -/
structure Found where
  names : List Name
  entry : Entry

/-- All that lies below a location. -/
def allBelow (tree : FileTree) (home : Location) : List Found :=
  tree.entries.filterMap fun (location, entry) =>
    match below? home location with
    | none | some [] => none
    | some names => some ⟨names, entry⟩

section Walk

variable [Host]

/-- What is visited below a location: no name on the way is hidden. -/
def reached (tree : FileTree) (home : Location) : List Found :=
  (allBelow tree home).filter fun found => found.names.all (! Host.hides ·)

/-- What is passed over: only its own name is hidden. -/
def passedOver (tree : FileTree) (home : Location) : List Found :=
  (allBelow tree home).filter fun found =>
    found.names.dropLast.all (! Host.hides ·) && (found.names.getLast?.map Host.hides).getD false

/-- Why the directory under some names cannot be listed: its path is too long, or the host refuses
it. -/
def refusal? (home : Location) (root : Path) (names : List Name) : Option FileError :=
  if 4096 ≤ (pathOf root names).length then some .nameTooLong
  else Host.unlisted? (names.reverse ++ home)

/-- The path of a directory that cannot be listed, and why: of the root and the directories that are
visited, the first one. -/
def unlisted? (home : Location) (root : Path) (visits : List Found) : Option (Path × FileError) :=
  ([] :: (visits.filter (·.entry = .directory)).map Found.names).findSome? fun names =>
    (refusal? home root names).map fun error => (pathOf root names, error)

end Walk

/-- The visited files with a wanted ending. -/
def matching (root : Path) (wanted : List Script.Source) (visits : List Found) :
    List Candidate :=
  visits.filterMap fun found =>
    match found.entry with
    | .file _ =>
      let path := pathOf root found.names
      (Script.Source.ofPath? wanted path).map (Candidate.mk path)
    | _ => none

/-- Whether some token excludes the path of a candidate. -/
def isExcluded (tokens : List String) (candidate : Candidate) : Bool :=
  Ignore.excludes tokens (Utf8.decodeLossy candidate.path)

/-- A root named `-` stands for a stream, which holds no files. -/
def isStream (root : Path) : Bool := root.components = [.name [0x2D]]

/-- What a walk from the root visits, and what it passes over. -/
structure Walk where
  visits : List Found
  passedOver : List Found

variable [Host]

/-- The walk from a root. -/
def walk (tree : FileTree) (cwd : Location) (root : Path) : Except Failure Walk :=
  match locate tree cwd root with
  | .error failure => .error failure
  | .ok home =>
    if isStream root then .ok ⟨[], []⟩
    else
      let visits := reached tree home
      match unlisted? home root visits with
      | some (directory, error) => .error (.unlisted directory error)
      | none => .ok ⟨visits, passedOver tree home⟩

/-- The files to convert below a root. -/
def candidates (tree : FileTree) (cwd : Location) (root : Path) (wanted : List Script.Source)
    (tokens : List String) : Except Failure (List Candidate) :=
  (walk tree cwd root).map fun walk =>
    ((matching root wanted walk.visits).filter fun c => !isExcluded tokens c).mergeSort
      fun first second => first.path.before second.path

end Discovery

end Retarget
