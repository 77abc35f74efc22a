/-
**What a report lists.**

A report lists the ends of conversions in two columns, each in the order in which the conversions
ended.

* `Report.ofOutcomes_eq`: the two columns;
* `Report.mem_converted` and `Report.mem_unconverted`: what stands in them;
* `Report.converted_perm` and `Report.unconverted_perm`: the order of the ends changes the order
  only.
-/

import Retarget.Conversion.Report

namespace Retarget

def Outcome.converted? : Outcome → Option Converted
  | .converted file => some file
  | .unconverted _ => none

def Outcome.unconverted? : Outcome → Option Unconverted
  | .converted _ => none
  | .unconverted file => some file

namespace Report

variable {outcomes others : List Outcome}

theorem foldl_record (report : Report) (outcomes : List Outcome) :
    outcomes.foldl record report = ⟨report.converted ++ outcomes.filterMap Outcome.converted?,
      report.unconverted ++ outcomes.filterMap Outcome.unconverted?⟩ := by
  induction outcomes generalizing report with
  | nil => simp
  | cons outcome rest ih =>
    rw [List.foldl_cons, ih]
    cases outcome <;>
      simp [record, List.filterMap_cons, Outcome.converted?, Outcome.unconverted?]

/-- **The two columns of a report.** -/
theorem ofOutcomes_eq (outcomes : List Outcome) :
    ofOutcomes outcomes =
      ⟨outcomes.filterMap Outcome.converted?, outcomes.filterMap Outcome.unconverted?⟩ := by
  rw [ofOutcomes, foldl_record]
  rfl

theorem mem_converted {file : Converted} :
    file ∈ (ofOutcomes outcomes).converted ↔ .converted file ∈ outcomes := by
  rw [ofOutcomes_eq, List.mem_filterMap]
  constructor
  · rintro ⟨outcome, inside, picked⟩
    cases outcome with
    | converted other =>
      cases picked
      exact inside
    | unconverted other => cases picked
  · exact fun inside => ⟨_, inside, rfl⟩

theorem mem_unconverted {file : Unconverted} :
    file ∈ (ofOutcomes outcomes).unconverted ↔ .unconverted file ∈ outcomes := by
  rw [ofOutcomes_eq, List.mem_filterMap]
  constructor
  · rintro ⟨outcome, inside, picked⟩
    cases outcome with
    | converted other => cases picked
    | unconverted other =>
      cases picked
      exact inside
  · exact fun inside => ⟨_, inside, rfl⟩

theorem converted_perm (same : outcomes.Perm others) :
    (ofOutcomes outcomes).converted.Perm (ofOutcomes others).converted := by
  rw [ofOutcomes_eq, ofOutcomes_eq]
  exact same.filterMap _

theorem unconverted_perm (same : outcomes.Perm others) :
    (ofOutcomes outcomes).unconverted.Perm (ofOutcomes others).unconverted := by
  rw [ofOutcomes_eq, ofOutcomes_eq]
  exact same.filterMap _

end Report

end Retarget
