/-
**Reading, writing and removing files, and opening directories.**

The three operations that a conversion is made of, each one step on the tree. Reading follows links;
writing follows them too and creates a missing file in a directory that is there; removing takes
away the entry that the path names, be it a file or a link. The host may refuse to write at a
location, to remove from a directory, and to list one.
-/

import Retarget.FileTree.Resolve
import Retarget.Host

namespace Retarget.FileTree

/-- The content of the file that a path leads to. -/
def read (tree : FileTree) (cwd : Location) (path : Path) : Except FileError Bytes :=
  match tree.resolve cwd .look path with
  | .error error => .error error
  | .ok (.file _ content) => .ok content
  | .ok (.directory _) => .error .isDirectory
  | .ok _ => .error .missing

/-- The content of the file that a path leads to, and the text that it spells. -/
def readText (tree : FileTree) (cwd : Location) (path : Path) :
    Except FileError (Bytes × List Char) :=
  match tree.read cwd path with
  | .error error => .error error
  | .ok content =>
    match Utf8.decode? content with
    | some text => .ok (content, text)
    | none => .error .notText

variable [Host]

/-- The tree with `content` in the file that a path leads to. -/
def write (tree : FileTree) (cwd : Location) (path : Path) (content : Bytes) :
    Except FileError FileTree :=
  match tree.resolve cwd .create path with
  | .error error => .error error
  | .ok (.file location _) =>
    Host.grant (Host.unwritten? location) (tree.put location (.file content))
  | .ok (.vacant parent name) =>
    Host.grant (Host.unwritten? (name :: parent)) (tree.put (name :: parent) (.file content))
  | .ok _ => .error .isDirectory

/-- The tree without the file or link that a path names. -/
def remove (tree : FileTree) (cwd : Location) (path : Path) : Except FileError FileTree :=
  match tree.resolve cwd .remove path with
  | .error error => .error error
  | .ok (.file location _) | .ok (.link location _) =>
    Host.grant (Host.unremoved? location.tail) (tree.erase location)
  | .ok (.directory _) => .error .isDirectory
  | .ok (.vacant _ _) => .error .missing

/-- The location of the directory that a path leads to, opened to be listed. -/
def openDirectory (tree : FileTree) (cwd : Location) (path : Path) : Except FileError Location :=
  match tree.resolve cwd .look path with
  | .error error => .error error
  | .ok (.directory location) => Host.grant (Host.unlisted? location) location
  | .ok (.vacant _ _) => .error .missing
  | .ok _ => .error .notDirectory

end Retarget.FileTree
