/-
**A run.**

A run finds the files below its root and converts them. It tells what it ignores, what it finds and
how each conversion ends, and counts at the end.
-/

import Retarget.Conversion.Report

namespace Retarget.Conversion

/-- What a run leaves: the tree, a report or why it failed, and what it told. -/
structure Run where
  tree : FileTree
  result : Except Failure Report
  notices : List Notice

/-- What the log is told about a walk: what is passed over, and of the files with a wanted ending
those that some token excludes and those that none does. -/
def walkEvents (settings : Settings) (walk : Discovery.Walk) : List Log.Event :=
  let root := settings.root
  (walk.passedOver.map fun found => .hidden (Discovery.pathOf root found.names)) ++
    (Discovery.matching root settings.sources walk.visits).map fun candidate =>
      if Discovery.isExcluded settings.tokens candidate then .excluded candidate.path
      else .candidate candidate

/-- The events of finding the files of a run. -/
def discoveryEvents [Host] (tree : FileTree) (cwd : Location) (settings : Settings) :
    List Log.Event :=
  match Discovery.walk tree cwd settings.root with
  | .ok walk => walkEvents settings walk
  | .error _ => []

/-- What is told in front of the conversions. -/
def opening (settings : Settings) : List Notice :=
  if settings.tokens = [] then [] else [.ignoring settings.tokens]

/-- What is told behind the conversions. -/
def closing (report : Report) : List Notice :=
  [.complete, .tally report.converted.length report.total report.unconverted.length]

/-- A run with some settings. -/
def run [Host] (tree : FileTree) (cwd : Location) (settings : Settings) : Run :=
  let events := Log.Event.starting settings :: discoveryEvents tree cwd settings
  let told := events.map Notice.log
  match Discovery.candidates tree cwd settings.root settings.sources settings.tokens with
  | .error failure => ⟨tree, .error failure, told⟩
  | .ok [] => ⟨tree, .ok {}, told ++ opening settings ++ [.nothingFound]⟩
  | .ok candidates =>
    let batch := convertAll cwd settings.keepOriginals tree candidates
    let report := Report.ofOutcomes batch.outcomes
    ⟨batch.tree, .ok report, told ++ opening settings ++ [.found candidates.length] ++
      batch.notices ++ closing report⟩

end Retarget.Conversion
