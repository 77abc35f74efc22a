/-
**Converting one file.**

A conversion reads a file and chooses its target, writes the content under the new name, and removes
the file unless originals are kept. A step that fails ends the conversion, and what the steps before
it did stays.

* `Conversion.load`, `Conversion.store` and `Conversion.discard`: the three steps;
* `Conversion.convert`: all steps of one conversion.
-/

import Retarget.Discovery
import Retarget.FileTree.Access

namespace Retarget

/-- The steps of a conversion. -/
inductive Stage where
  | read
  | write
  | delete
  deriving DecidableEq, Repr

def Stage.text : Stage → String
  | .read => "read"
  | .write => "write"
  | .delete => "delete"

/-- A file written under its new name. -/
structure Converted where
  source : Path
  destination : Path
  deriving DecidableEq, Repr

/-- A file that could not be converted. -/
structure Unconverted where
  path : Path
  stage : Stage
  error : FileError
  deriving DecidableEq, Repr

def Unconverted.message (file : Unconverted) : String :=
  file.stage.text ++ " failed: " ++ file.error.message

/-- How a conversion ends. -/
inductive Outcome where
  | converted (file : Converted)
  | unconverted (file : Unconverted)
  deriving DecidableEq, Repr

namespace Conversion

/-- A file that is read, and the target that its text asks for. -/
structure Loaded where
  content : Bytes
  target : Script.Target
  deriving DecidableEq, Repr

/-- Reads the file of a candidate, which has to be text. -/
def load (tree : FileTree) (cwd : Location) (candidate : Candidate) : Except FileError Loaded :=
  (tree.readText cwd candidate.path).map fun (content, text) =>
    ⟨content, candidate.source.target text⟩

/-- Where the target of a candidate is written. -/
def destinationOf (candidate : Candidate) (loaded : Loaded) : Path :=
  Script.destination candidate.path loaded.target

/-- The end of a conversion at a failed step. -/
def failed (candidate : Candidate) (stage : Stage) (error : FileError) : Outcome :=
  .unconverted ⟨candidate.path, stage, error⟩

/-- The end of a conversion whose steps are done. -/
def done (candidate : Candidate) (loaded : Loaded) : Outcome :=
  .converted ⟨candidate.path, destinationOf candidate loaded⟩

variable [Host]

/-- Writes the target of a candidate. -/
def store (tree : FileTree) (cwd : Location) (candidate : Candidate) (loaded : Loaded) :
    Except FileError FileTree :=
  tree.write cwd (destinationOf candidate loaded) loaded.content

/-- Removes the file of a candidate. -/
def discard (tree : FileTree) (cwd : Location) (candidate : Candidate) : Except FileError FileTree :=
  tree.remove cwd candidate.path

/-- Converts the file of a candidate. -/
def convert (cwd : Location) (keep : Bool) (tree : FileTree) (candidate : Candidate) :
    FileTree × Outcome :=
  match load tree cwd candidate with
  | .error error => (tree, failed candidate .read error)
  | .ok loaded =>
    match store tree cwd candidate loaded with
    | .error error => (tree, failed candidate .write error)
    | .ok stored =>
      if keep then (stored, done candidate loaded)
      else match discard stored cwd candidate with
        | .error error => (stored, failed candidate .delete error)
        | .ok discarded => (discarded, done candidate loaded)

end Conversion

end Retarget
