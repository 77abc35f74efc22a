/-
**All orders of the steps of a run.**

Whatever order the steps of the conversions mix in, and whatever the limit, each candidate is
waiting, under way or recorded, and the tree is the one that the tasks tell. So all runs that are
over have left what the tree before the run asks for, and where no two targets meet that is one
tree.

* `Schedule.Holds`: a property of the tasks and the tree, before and behind every step;
* `Schedule.Holds.step` and `Schedule.Holds.steps`: a step and a run keep it, when every step of one
  conversion does;
* `Schedule.Sound`: the tree is the one that the tasks tell;
* `Schedule.Settled`: the tree behind a run;
* `Schedule.settled_of_steps`: every run that is over has left it;
* `Schedule.Settled.same`: where no two targets meet, it is one tree.
-/

import Retarget.Proofs.Conversion.Course
import Retarget.Proofs.Conversion.Report

namespace Retarget.Schedule

open Conversion (Apart Portrays Loaded fate verdict Discards OnCourse HasStored HasLeft)
open FileTree (SameFrame)

variable [Host] {ground : FileTree} {cwd : Location} {keep : Bool} {limit : Option Nat}
  {candidates order : List Candidate} {place : Candidate → Location} {lead : Location → Path}
  {schedule next last : Schedule}

/-- The task of a conversion that waits. -/
def waitingTask (candidate : Candidate) : Task := ⟨candidate, .ready⟩

/-- The task of a conversion that has ended so. -/
def endedTask (ended : Candidate × Outcome) : Task := ⟨ended.1, .ended ended.2⟩

/-! ### What holds along a run -/

/-- **What holds between two steps**: some conversions are recorded with their ends, and together
with those under way and those that wait they have a property in the tree. -/
def Holds (property : List Task → FileTree → Prop) (schedule : Schedule) : Prop :=
  ∃ recorded : List (Candidate × Outcome), schedule.outcomes = recorded.map (·.2) ∧
    property (recorded.map endedTask ++ (schedule.active ++ schedule.waiting.map waitingTask))
      schedule.tree

/-- Whether a property does not depend on the order of the tasks and is kept by every step of one
conversion. -/
structure Kept (cwd : Location) (keep : Bool) (property : List Task → FileTree → Prop) : Prop where
  perm : ∀ {tasks others : List Task} {tree : FileTree}, tasks.Perm others →
    property tasks tree → property others tree
  advance : ∀ {candidate : Candidate} {progress further : Progress} {others : List Task}
    {tree after : FileTree}, progress.advance cwd keep tree candidate = some (after, further) →
      property (⟨candidate, progress⟩ :: others) tree →
        property (⟨candidate, further⟩ :: others) after

namespace Holds

variable {property : List Task → FileTree → Prop}

omit [Host] in
theorem initial (ready : property (order.map waitingTask) ground) :
    Holds property (initial ground order) :=
  ⟨[], rfl, ready⟩

/-- **A step keeps what holds**, whichever it is. -/
theorem step (holds : Holds property schedule) (kept : Kept cwd keep property)
    (step : Step cwd keep limit schedule next) : Holds property next := by
  obtain ⟨recorded, ends, has⟩ := holds
  cases step with
  | start room => exact ⟨recorded, ends, by simpa [waitingTask] using has⟩
  | advance before after stepped =>
    refine ⟨recorded, ends, ?_⟩
    dsimp only at has ⊢
    rw [List.append_assoc, List.cons_append, ← List.append_assoc] at has ⊢
    exact kept.perm List.perm_middle.symm (kept.advance stepped (kept.perm List.perm_middle has))
  | @record before after tree waiting candidate outcome outcomes =>
    dsimp only at ends has
    refine ⟨recorded ++ [(candidate, outcome)], by simp [ends], ?_⟩
    have forward : (before ++ endedTask (candidate, outcome) :: (after ++ waiting.map waitingTask)).Perm
        (endedTask (candidate, outcome) :: (before ++ (after ++ waiting.map waitingTask))) :=
      List.perm_middle
    rw [List.append_assoc, List.cons_append] at has
    rw [List.map_append, List.map_singleton, List.append_assoc, List.append_assoc]
    exact kept.perm (forward.append_left _) has

/-- **A run keeps what holds.** -/
theorem steps (holds : Holds property schedule) (kept : Kept cwd keep property)
    (steps : Steps cwd keep limit schedule last) : Holds property last := by
  induction steps with
  | refl => exact holds
  | head step _ ih => exact ih (holds.step kept step)

end Holds

/-! ### The tree that the tasks tell -/

/-- The task of a conversion that is recorded. -/
def recordedTask (ground : FileTree) (cwd : Location) (keep : Bool) (candidate : Candidate) : Task :=
  ⟨candidate, .ended (verdict ground cwd keep candidate)⟩

/-- **What holds between two steps.** Some conversions are recorded as the tree before the run lets
them end, and with those under way and those that wait they tell the tree. -/
def Sound (ground : FileTree) (cwd : Location) (keep : Bool) (candidates : List Candidate)
    (place : Candidate → Location) (schedule : Schedule) : Prop :=
  ∃ recorded : List Candidate,
    schedule.outcomes = recorded.map (verdict ground cwd keep) ∧
      Portrays ground cwd keep candidates place
        (recorded.map (recordedTask ground cwd keep) ++
          (schedule.active ++ schedule.waiting.map waitingTask)) schedule.tree

namespace Sound

/-- Conversions on their course are recorded as the tree before the run lets them end. -/
theorem iff_holds : Sound ground cwd keep candidates place schedule ↔
    Holds (Portrays ground cwd keep candidates place) schedule := by
  have tasks : ∀ recorded : List Candidate,
      (recorded.map fun candidate => (candidate, verdict ground cwd keep candidate)).map endedTask =
        recorded.map (recordedTask ground cwd keep) := by
    intro recorded
    rw [List.map_map]
    rfl
  constructor
  · rintro ⟨recorded, ends, portrays⟩
    refine ⟨recorded.map fun candidate => (candidate, verdict ground cwd keep candidate), ?_, ?_⟩
    · rw [ends, List.map_map]
      rfl
    · rw [tasks]
      exact portrays
  · rintro ⟨recorded, ends, portrays⟩
    have ended : ∀ entry ∈ recorded, entry.2 = verdict ground cwd keep entry.1 := fun entry inside =>
      portrays.course (endedTask entry) (List.mem_append_left _ (List.mem_map_of_mem inside))
    have same : recorded = (recorded.map (·.1)).map fun candidate =>
        (candidate, verdict ground cwd keep candidate) := by
      rw [List.map_map]
      conv_lhs => rw [← List.map_id recorded]
      refine List.map_congr_left fun entry inside => ?_
      exact Prod.ext rfl (ended entry inside)
    refine ⟨recorded.map (·.1), ?_, ?_⟩
    · rw [ends]
      conv_lhs => rw [same]
      rw [List.map_map]
      rfl
    · rw [← tasks, ← same]
      exact portrays

theorem initial (perm : order.Perm candidates) :
    Sound ground cwd keep candidates place (initial ground order) := by
  have ready : ∀ {task : Task},
      task ∈ order.map waitingTask → ∃ candidate, task = waitingTask candidate := by
    intro task inside
    obtain ⟨candidate, -, rfl⟩ := List.mem_map.mp inside
    exact ⟨candidate, rfl⟩
  refine iff_holds.mpr (.initial ⟨?_, ?_, .refl ground, ?_, ?_, fun _ _ _ => rfl⟩)
  · rw [List.map_map, show (fun task : Task => task.candidate) ∘ waitingTask = id from rfl,
      List.map_id]
    exact perm
  · intro task inside
    obtain ⟨candidate, rfl⟩ := ready inside
    trivial
  · intro task inside left
    obtain ⟨candidate, rfl⟩ := ready inside
    exact left.elim
  · intro task inside file location stored
    obtain ⟨candidate, rfl⟩ := ready inside
    exact stored.elim

/-- **A run keeps what holds.** -/
theorem steps (sound : Sound ground cwd keep candidates place schedule)
    (apart : Apart ground cwd candidates place lead)
    (steps : Steps cwd keep limit schedule last) :
    Sound ground cwd keep candidates place last :=
  iff_holds.mpr ((iff_holds.mp sound).steps
    ⟨fun same portrays => portrays.perm same, fun stepped portrays => portrays.advance apart stepped⟩
    steps)

end Sound

/-! ### The tree behind a run -/

/-- **The tree behind a run.** Files whose conversions removed them are gone, where a target went
stands one of the files that went there, and all else is as before. -/
structure Settled (ground : FileTree) (cwd : Location) (keep : Bool) (candidates : List Candidate)
    (place : Candidate → Location) (tree : FileTree) : Prop where
  frame : SameFrame ground tree
  left : ∀ candidate ∈ candidates, Discards ground cwd keep candidate → ∀ file target,
    fate ground cwd candidate = .moved file target → tree.get? (place candidate) = none
  stored : ∀ candidate ∈ candidates, ∀ file target,
    fate ground cwd candidate = .moved file target → ∃ survivor ∈ candidates, ∃ kept,
      fate ground cwd survivor = .moved kept target ∧
        tree.get? target = some (.file kept.content)
  untouched : ∀ location,
    (∀ candidate ∈ candidates, Discards ground cwd keep candidate → ∀ file target,
      fate ground cwd candidate = .moved file target → place candidate ≠ location) →
    (∀ candidate ∈ candidates, ∀ file, fate ground cwd candidate ≠ .moved file location) →
      tree.get? location = ground.get? location

/-- **What a run that is over leaves**: the tree is settled, and every conversion has ended as the
tree before the run lets it. -/
theorem Sound.settled (sound : Sound ground cwd keep candidates place schedule)
    (waiting : schedule.waiting = []) (active : schedule.active = []) :
    Settled ground cwd keep candidates place schedule.tree ∧
      schedule.outcomes.Perm (candidates.map (verdict ground cwd keep)) := by
  obtain ⟨recorded, ends, portrays⟩ := sound
  rw [waiting, active, List.map_nil, List.append_nil, List.append_nil] at portrays
  have all : recorded.Perm candidates := by
    have listed := portrays.listed
    rwa [List.map_map, show (fun task : Task => task.candidate) ∘ recordedTask ground cwd keep = id
      from rfl, List.map_id] at listed
  refine ⟨⟨portrays.frame, ?_, ?_, ?_⟩, by rw [ends]; exact all.map _⟩
  · intro candidate listed discards file target moved
    exact portrays.left (recordedTask ground cwd keep candidate)
      (List.mem_map_of_mem (all.mem_iff.mpr listed)) ⟨discards, file, target, moved⟩
  · intro candidate listed file target moved
    obtain ⟨task, inside, kept, stored, present⟩ :=
      portrays.stored (recordedTask ground cwd keep candidate)
        (List.mem_map_of_mem (all.mem_iff.mpr listed)) file target moved
    obtain ⟨survivor, here, rfl⟩ := List.mem_map.mp inside
    exact ⟨survivor, all.mem_iff.mp here, kept, stored, present⟩
  · intro location left unwritten
    refine portrays.untouched location ?_ ?_
    · intro task inside gone
      obtain ⟨candidate, here, rfl⟩ := List.mem_map.mp inside
      obtain ⟨discards, file, target, moved⟩ := gone
      exact left candidate (all.mem_iff.mp here) discards file target moved
    · intro task inside file stored
      obtain ⟨candidate, here, rfl⟩ := List.mem_map.mp inside
      exact unwritten candidate (all.mem_iff.mp here) file stored

/-- **Every run that is over** has left a settled tree. -/
theorem settled_of_steps (apart : Apart ground cwd candidates place lead)
    (perm : order.Perm candidates)
    (steps : Steps cwd keep limit (initial ground order) last)
    (waiting : last.waiting = []) (active : last.active = []) :
    Settled ground cwd keep candidates place last.tree ∧
      last.outcomes.Perm (candidates.map (verdict ground cwd keep)) :=
  ((Sound.initial perm).steps apart steps).settled waiting active

/-- A file that its conversion has not taken away is as before. -/
theorem Settled.kept {tree : FileTree} {candidate : Candidate}
    (settled : Settled ground cwd keep candidates place tree)
    (apart : Apart ground cwd candidates place lead) (listed : candidate ∈ candidates)
    (stays : Discards ground cwd keep candidate → ∀ file target,
      fate ground cwd candidate ≠ .moved file target) :
    tree.get? (place candidate) = ground.get? (place candidate) := by
  refine settled.untouched _ ?_ ?_
  · intro other inside discards file target moved here
    obtain rfl := apart.distinct _ inside _ listed here
    exact stays discards file target moved
  · intro other inside file moved
    exact apart.target_ne inside listed moved rfl

/-- **At a target** is read the content of a file that went there. -/
theorem Settled.delivered {tree : FileTree} {candidate : Candidate} {file : Loaded}
    {target : Location} (settled : Settled ground cwd keep candidates place tree)
    (apart : Apart ground cwd candidates place lead) (listed : candidate ∈ candidates)
    (moved : fate ground cwd candidate = .moved file target) :
    ∃ survivor ∈ candidates, ∃ kept, fate ground cwd survivor = .moved kept target ∧
      tree.read cwd (Conversion.destinationOf candidate file) = .ok kept.content := by
  obtain ⟨survivor, inside, kept, moved', present⟩ :=
    settled.stored candidate listed file target moved
  refine ⟨survivor, inside, kept, moved', ?_⟩
  obtain ⟨-, written⟩ := Conversion.fate_eq_moved_iff.mp moved
  obtain ⟨site, -, -⟩ := apart.sited candidate listed
  rw [site.destinationOf_eq] at written ⊢
  obtain ⟨-, name, outer, rfl, leads⟩ := site.reaches.read_writeTarget (site.isWord_targetWord _)
    (site.zero_notMem_targetWord _) (ground.get?_parent site.stands) written
  rw [FileTree.read_of_resolve (leads tree settled.frame), FileTree.contentAt_of_file present]

/-- **Trees that are settled alike** are one tree, where no two targets meet. -/
theorem Settled.same {tree other : FileTree} (apart : Apart ground cwd candidates place lead)
    (free : ∀ first ∈ candidates, ∀ second ∈ candidates,
      ¬ Conversion.Clashes ground cwd first second)
    (settled : Settled ground cwd keep candidates place tree)
    (settled' : Settled ground cwd keep candidates place other) : tree.Same other := by
  intro location
  by_cases written : ∃ candidate ∈ candidates, ∃ file,
      fate ground cwd candidate = .moved file location
  · obtain ⟨candidate, listed, file, moved⟩ := written
    obtain ⟨first, listed₁, kept₁, moved₁, present₁⟩ :=
      settled.stored candidate listed file location moved
    obtain ⟨second, listed₂, kept₂, moved₂, present₂⟩ :=
      settled'.stored candidate listed file location moved
    rcases apart.eq_or_clashes listed₁ listed₂ moved₁ moved₂ with rfl | clash | clash
    · rw [moved₁, Conversion.Fate.moved.injEq] at moved₂
      rw [present₁, present₂, moved₂.1]
    · exact absurd clash (free first listed₁ second listed₂)
    · exact absurd clash (free second listed₂ first listed₁)
  · simp only [not_exists, not_and] at written
    by_cases left : ∃ candidate ∈ candidates, Discards ground cwd keep candidate ∧
        ∃ file target, fate ground cwd candidate = .moved file target ∧ place candidate = location
    · obtain ⟨candidate, listed, discards, file, target, moved, rfl⟩ := left
      rw [settled.left candidate listed discards file target moved,
        settled'.left candidate listed discards file target moved]
    · have stays : ∀ candidate ∈ candidates, Discards ground cwd keep candidate →
          ∀ file target, fate ground cwd candidate = .moved file target →
            place candidate ≠ location :=
        fun candidate listed discards file target moved here =>
          left ⟨candidate, listed, discards, file, target, moved, here⟩
      rw [settled.untouched location stays written, settled'.untouched location stays written]

end Retarget.Schedule
