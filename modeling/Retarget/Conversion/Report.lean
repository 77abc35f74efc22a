/-
**Converting many files.**

A file that cannot be converted is recorded and stops no other. The files are converted one after
another, in their order.

* `Conversion.convertAll`: the tree behind all conversions, how each of them ended, and what they
  told;
* `Report.ofOutcomes`: the files that were converted and those that were not.
-/

import Retarget.Notice

namespace Retarget

/-- The files that were converted and those that were not. -/
structure Report where
  converted : List Converted := []
  unconverted : List Unconverted := []
  deriving DecidableEq, Repr

namespace Report

def total (report : Report) : Nat := report.converted.length + report.unconverted.length

/-- The report with the end of one more conversion. -/
def record (report : Report) : Outcome → Report
  | .converted file => { report with converted := report.converted ++ [file] }
  | .unconverted file => { report with unconverted := report.unconverted ++ [file] }

/-- The report of the conversions that ended so, in this order. -/
def ofOutcomes (outcomes : List Outcome) : Report := outcomes.foldl record {}

end Report

namespace Conversion

/-- What a conversion tells: the target of a file that could be read, and how it ended. -/
def notices (tree : FileTree) (cwd : Location) (candidate : Candidate) (outcome : Outcome) :
    List Notice :=
  let classified := match load tree cwd candidate with
    | .ok loaded => [.log (.classified candidate.path loaded.target)]
    | .error _ => []
  let failed := match outcome with
    | .unconverted file => [.log (.failed file)]
    | .converted _ => []
  classified ++ [.finished outcome] ++ failed

/-- What is left of the conversions of a list: the tree, how they ended, and what they told. -/
structure Batch where
  tree : FileTree
  outcomes : List Outcome
  notices : List Notice

/-- Converts the files of a list one after another. -/
def convertAll [Host] (cwd : Location) (keep : Bool) (tree : FileTree) : List Candidate → Batch
  | [] => ⟨tree, [], []⟩
  | candidate :: rest =>
    let (next, outcome) := convert cwd keep tree candidate
    let batch := convertAll cwd keep next rest
    ⟨batch.tree, outcome :: batch.outcomes,
      notices tree cwd candidate outcome ++ batch.notices⟩

end Conversion

end Retarget
