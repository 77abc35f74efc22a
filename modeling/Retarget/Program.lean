/-
**The program.**

A command line is read, the settings are loaded and the files are converted. The exit status is 0
unless something fails; files that could not be converted count as a failure of a strict run.
-/

import Retarget.Conversion.Run
import Retarget.Log.Filter

namespace Retarget.Program

/-- What the program leaves: the tree, the exit status and what it told. -/
structure Ending where
  tree : FileTree
  status : Nat
  notices : List Notice

/-- Why a finished run fails, if it does: a strict run has to convert every file. -/
def shortfall? (settings : Settings) (report : Report) : Option Failure :=
  if settings.strict = true ∧ report.unconverted ≠ [] then
    some (.unconverted report.unconverted.length)
  else none

/-- What the run of some settings leaves. -/
def convert [Host] (tree : FileTree) (cwd : Location) (settings : Settings) : Ending :=
  let run := Conversion.run tree cwd settings
  match run.result with
  | .error failure => ⟨run.tree, 1, run.notices ++ [.failed failure]⟩
  | .ok report =>
    match shortfall? settings report with
    | some failure => ⟨run.tree, 1, run.notices ++ [.failed failure]⟩
    | none => ⟨run.tree, 0, run.notices⟩

/-- Whether a notice is printed: of those for the log the ones that a filter admits. -/
def isPrinted (filter : Log.Filter) : Notice → Bool
  | .log event => filter.admits event
  | _ => true

/-- What a command line leaves. `asked` is the log filter of the environment. -/
def run [Host] (tree : FileTree) (cwd : Location) (line : List Bytes) (asked : Option Bytes) :
    Ending :=
  match Arguments.ofList line with
  | .error stop => ⟨tree, if stop.isFault then 1 else 0, [.stopped stop]⟩
  | .ok arguments =>
    let ending : Ending := match Settings.load tree cwd arguments with
      | .error failure => ⟨tree, 1, [.failed failure]⟩
      | .ok settings => convert tree cwd settings
    let filter := Log.Filter.ofRun asked arguments.verbose
    { ending with notices := ending.notices.filter (isPrinted filter) }

end Retarget.Program
