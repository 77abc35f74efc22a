/-
**The command line.**

The arguments are those of `Program.run`. Standard input lists the tree below the working directory:
for each entry its kind (`d`, `f` or `l`), its path and the target of a link, which is empty for
other kinds, with a zero byte behind each of the three. The listed files are read, the program runs
on that tree, and what it changed is then written to the files.
-/

import Retarget.FileTree.Build
import Retarget.FileTree.Change
import Retarget.Program

namespace Retarget.CommandLine

/-- An entry of the listing. -/
structure Listed where
  kind : Bytes
  path : Path
  target : Path

/-- The entries that the parts of a listing tell of, three for each. -/
def listed : List Bytes → List Listed
  | kind :: path :: target :: rest => ⟨kind, path, target⟩ :: listed rest
  | _ => []

/-- The directory that a path names, down from the root. -/
def locationOf (path : Path) : Location :=
  ((segments Path.slash path).filterMap Name.ofBytes?).reverse

/-- All that is left of a stream. -/
partial def readAll (stream : IO.FS.Stream) (done : ByteArray) : IO Bytes := do
  let part ← stream.read 65536
  if part.isEmpty then return done.toList
  readAll stream (done ++ part)

/-- The tree with one listed entry; an entry that cannot be read is left out. -/
def grow (cwd : Location) (tree : FileTree) (entry : Listed) : IO FileTree := do
  match entry.kind.toString?, entry.path.toString? with
  | some "d", _ => return tree.plant cwd entry.path .directory
  | some "l", _ => return tree.plant cwd entry.path (.link entry.target)
  | some "f", some path =>
    try
      let content ← IO.FS.readBinFile path
      return tree.plant cwd entry.path (.file content.toList)
    catch _ => return tree
  | _, _ => return tree

/-- Makes one change to the files. -/
def apply (change : Change) : IO Unit := do
  match change with
  | .write location content =>
    IO.FS.writeBinFile location.path.shown ⟨content.toArray⟩
  | .remove location => IO.FS.removeFile location.path.shown

/-- Prints a notice. -/
def print (notice : Notice) : IO Unit :=
  match notice.channel with
  | .output => IO.println notice.text
  | .errors | .log => IO.eprintln notice.text

/-- Runs the program on the listed tree. -/
def run (line : List String) : IO UInt32 := do
  let cwd := locationOf (Bytes.ofString ((← IO.getEnv "PWD").getD "/"))
  let listing ← readAll (← IO.getStdin) .empty
  let ground := FileTree.empty.plant [] cwd.path .directory
  let tree ← (listed (segments 0 listing)).foldlM (grow cwd) ground
  let asked := (← IO.getEnv "RUST_LOG").map Bytes.ofString
  let ending := Program.run tree cwd (line.map Bytes.ofString) asked
  for change in tree.changes ending.tree do
    apply change
  for notice in ending.notices do
    print notice
  return UInt32.ofNat ending.status

end Retarget.CommandLine

def main (line : List String) : IO UInt32 := Retarget.CommandLine.run line
