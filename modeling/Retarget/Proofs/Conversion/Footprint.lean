/-
**What a run touches, through links too.**

The path of a target may be a link, and what is written through it may be any file, that of another
candidate among them: its content changes while the run goes on, and with it what is read from it
and which target it gets. Two things do not change. The frame is kept, so every path leads where it
led before the run; and a file that a conversion has not taken away is still a file at its place. So
each step writes where the path of a target leads before the run, or takes a file from its place.

* `Conversion.Wrote` and `Conversion.Took`: what a conversion has done to the tree so far;
* `Conversion.Footprint`: what holds between two steps;
* `Conversion.Footprint.replace`: what a step may do to the tree;
* `Conversion.Footprint.writes`, `clears` and `holds`: the steps that write a target, take a file
  away and fail to do so;
* `Conversion.Footprint.advance`: a step of one conversion does no more.
-/

import Retarget.Conversion.Schedule
import Retarget.Proofs.Conversion.Apart
import Retarget.Proofs.FileTree.Arrival

namespace Retarget.Conversion

open FileTree (SameFrame)

/-! ### What a conversion has done -/

section Progress

variable [Host] (ground : FileTree) (cwd : Location) (keep : Bool)

/-- Whether a conversion has written to a location: the path of its target leads there before the
run. A conversion that fails to remove its file does not tell which target it has written. -/
def Wrote (task : Task) (location : Location) : Prop :=
  match task.progress with
  | .written file =>
    ground.writeTarget cwd (destinationOf task.candidate file) = .ok location
  | .ended (.converted file) => ground.writeTarget cwd file.destination = .ok location
  | .ended (.unconverted file) => file.stage = .delete ∧ ∃ target,
    ground.writeTarget cwd (Script.destination task.candidate.path target) = .ok location
  | _ => False

/-- Whether a conversion has taken its file away. -/
def Took (task : Task) : Prop := keep = false ∧ ∃ file, task.progress = .ended (.converted file)

/-- What the progress of a conversion says, whatever it read. A file that could be read has a short
path, an end names the file that it is the end of, and a file that could not be removed is held. -/
def Credible (task : Task) : Prop :=
  match task.progress with
  | .ready => True
  | .read _ => task.candidate.path.length < 4096
  | .written file => keep = false ∧ task.candidate.path.length < 4096 ∧
    ∃ location, ground.writeTarget cwd (destinationOf task.candidate file) = .ok location
  | .ended (.converted file) =>
    file.source = task.candidate.path ∧ task.candidate.path.length < 4096 ∧
      (∃ target, file.destination = Script.destination task.candidate.path target) ∧
      ∃ location, ground.writeTarget cwd file.destination = .ok location
  | .ended (.unconverted file) => file.path = task.candidate.path ∧ (file.stage = .delete →
    keep = false ∧ task.candidate.path.length < 4096 ∧
      held? ground cwd task.candidate = some file.error)

end Progress

/-- **What holds between two steps.** The frame is kept, each file stands at its place until its own
conversion takes it away, and whatever differs from the tree before the run was written or taken by
some conversion. -/
structure Footprint [Host] (ground : FileTree) (cwd : Location) (keep : Bool)
    (candidates : List Candidate) (place : Candidate → Location) (tasks : List Task)
    (tree : FileTree) : Prop where
  listed : (tasks.map (·.candidate)).Perm candidates
  credible : ∀ task ∈ tasks, Credible ground cwd keep task
  frame : SameFrame ground tree
  present : ∀ task ∈ tasks, ¬ Took keep task →
    ∃ content, tree.get? (place task.candidate) = some (.file content)
  taken : ∀ task ∈ tasks, Took keep task → tree.get? (place task.candidate) = none ∨
    ∃ writer ∈ tasks, Wrote ground cwd writer (place task.candidate)
  changed : ∀ location, tree.get? location = ground.get? location ∨
    (∃ task ∈ tasks, Wrote ground cwd task location) ∨
      ∃ task ∈ tasks, Took keep task ∧ place task.candidate = location
  lost : ∀ location, (ground.get? location).isSome → tree.get? location = none →
    ∃ task ∈ tasks, Took keep task ∧ place task.candidate = location

namespace Footprint

variable [Host] {ground tree after : FileTree} {cwd target : Location} {keep : Bool}
  {candidates : List Candidate} {place : Candidate → Location} {lead : Location → Path}
  {tasks others : List Task} {task next : Task} {file : Loaded}

/-- The order of the tasks does not matter. -/
theorem perm (footprint : Footprint ground cwd keep candidates place tasks tree)
    (same : tasks.Perm others) : Footprint ground cwd keep candidates place others tree := by
  obtain ⟨listed, credible, frame, present, taken, changed, lost⟩ := footprint
  simp only [same.mem_iff] at credible present taken changed lost
  exact ⟨(same.symm.map _).trans listed, credible, frame, present, taken, changed, lost⟩

theorem mem_candidates (footprint : Footprint ground cwd keep candidates place tasks tree)
    (inside : task ∈ tasks) : task.candidate ∈ candidates :=
  footprint.listed.mem_iff.mp (List.mem_map_of_mem inside)

/-- **What a step may do to the tree.** Where it changes something, the conversion that makes it has
written a file there or has taken its own file away. -/
theorem replace (footprint : Footprint ground cwd keep candidates place (task :: others) tree)
    (placed : Placed ground cwd candidates place lead)
    (same : next.candidate = task.candidate) (credible : Credible ground cwd keep next)
    (stays : ¬ Took keep task)
    (wrote : ∀ location, Wrote ground cwd task location → Wrote ground cwd next location)
    (frame : SameFrame tree after)
    (explained : ∀ location, after.get? location = tree.get? location ∨
      (Wrote ground cwd next location ∧ ∃ content, after.get? location = some (.file content)) ∨
        Took keep next ∧ place task.candidate = location ∧ after.get? location = none)
    (leaves : Took keep next → after.get? (place task.candidate) = none) :
    Footprint ground cwd keep candidates place (next :: others) after := by
  have listed := footprint.listed
  have once := listed.nodup_iff.mpr placed.nodup
  rw [List.map_cons, List.nodup_cons] at once
  -- Another file is not at the place of this one.
  have elsewhere : ∀ other ∈ others, place other.candidate ≠ place task.candidate := by
    intro other behind here
    have equal := placed.distinct _
      (footprint.mem_candidates (List.mem_cons_of_mem _ behind)) _
      (footprint.mem_candidates List.mem_cons_self) here
    exact once.1 (equal ▸ List.mem_map_of_mem behind)
  have writers : ∀ location, (∃ writer ∈ task :: others, Wrote ground cwd writer location) →
      ∃ writer ∈ next :: others, Wrote ground cwd writer location := by
    rintro location ⟨writer, inside, written⟩
    rcases List.mem_cons.mp inside with rfl | behind
    · exact ⟨next, List.mem_cons_self, wrote location written⟩
    · exact ⟨writer, List.mem_cons_of_mem _ behind, written⟩
  have takers : ∀ location, (∃ taker ∈ task :: others, Took keep taker ∧
      place taker.candidate = location) →
      ∃ taker ∈ next :: others, Took keep taker ∧ place taker.candidate = location := by
    rintro location ⟨taker, inside, took, here⟩
    rcases List.mem_cons.mp inside with rfl | behind
    · exact absurd took stays
    · exact ⟨taker, List.mem_cons_of_mem _ behind, took, here⟩
  refine ⟨?_, ?_, footprint.frame.trans frame, ?_, ?_, ?_, ?_⟩
  · rw [List.map_cons, same]
    exact listed
  · exact List.forall_mem_cons.mpr ⟨credible, (List.forall_mem_cons.mp footprint.credible).2⟩
  · have before := List.forall_mem_cons.mp footprint.present
    refine List.forall_mem_cons.mpr ⟨fun keeps => ?_, fun other behind keeps => ?_⟩
    · rw [same]
      rcases explained (place task.candidate) with equal | ⟨-, written⟩ | ⟨took, -⟩
      · rw [equal]
        exact before.1 stays
      · exact written
      · exact absurd took keeps
    · rcases explained (place other.candidate) with equal | ⟨-, written⟩ | ⟨-, here, -⟩
      · rw [equal]
        exact before.2 other behind keeps
      · exact written
      · exact absurd here.symm (elsewhere other behind)
  · refine List.forall_mem_cons.mpr ⟨fun took => ?_, fun other behind took => ?_⟩
    · rw [same]
      exact .inl (leaves took)
    · rcases footprint.taken other (List.mem_cons_of_mem _ behind) took with gone | written
      · rcases explained (place other.candidate) with equal | ⟨written, -⟩ | ⟨-, -, gone'⟩
        · exact .inl (equal.trans gone)
        · exact .inr ⟨next, List.mem_cons_self, written⟩
        · exact .inl gone'
      · exact .inr (writers _ written)
  · intro location
    rcases explained location with equal | ⟨written, -⟩ | ⟨took, here, -⟩
    · rw [equal]
      exact (footprint.changed location).imp id (.imp (writers location) (takers location))
    · exact .inr (.inl ⟨next, List.mem_cons_self, written⟩)
    · exact .inr (.inr ⟨next, List.mem_cons_self, took, by rw [same, here]⟩)
  · intro location stood gone
    rcases explained location with equal | ⟨-, content, written⟩ | ⟨took, here, -⟩
    · exact takers location (footprint.lost location stood (equal.symm.trans gone))
    · rw [gone] at written
      cases written
    · exact ⟨next, List.mem_cons_self, took, by rw [same, here]⟩

/-! ### One step of a conversion -/

variable {candidate : Candidate} {progress further : Progress}

/-- A file that has not been taken away has a site in the tree between two steps. -/
theorem exists_site (footprint : Footprint ground cwd keep candidates place (task :: others) tree)
    (placed : Placed ground cwd candidates place lead) (stays : ¬ Took keep task) :
    ∃ site : Site tree cwd task.candidate, site.location = place task.candidate := by
  obtain ⟨content, present⟩ := footprint.present task List.mem_cons_self stays
  obtain ⟨site, here, -⟩ := placed.sited _ (footprint.mem_candidates List.mem_cons_self)
  rw [← here] at present
  exact ⟨site.renew footprint.frame present, here⟩

/-- A step that leaves the tree as it is. -/
theorem quiet (footprint : Footprint ground cwd keep candidates place (task :: others) tree)
    (placed : Placed ground cwd candidates place lead)
    (same : next.candidate = task.candidate) (credible : Credible ground cwd keep next)
    (unwritten : ∀ location, ¬ Wrote ground cwd task location) (stays : ¬ Took keep task)
    (stays' : ¬ Took keep next) :
    Footprint ground cwd keep candidates place (next :: others) tree :=
  footprint.replace placed same credible stays
    (fun location written => absurd written (unwritten location)) (.refl tree)
    (fun _ => .inl rfl) fun took => absurd took stays'

theorem credible_done (short : candidate.path.length < 4096)
    (written : ground.writeTarget cwd (destinationOf candidate file) = .ok target) :
    Credible ground cwd keep ⟨candidate, .ended (done candidate file)⟩ := by
  have named : destinationOf candidate file = Script.destination candidate.path file.target := rfl
  simp only [Credible, done]
  exact ⟨trivial, short, ⟨file.target, named⟩, target, written⟩

theorem credible_failed {stage : Stage} {error : FileError} (early : stage ≠ .delete) :
    Credible ground cwd keep ⟨candidate, .ended (failed candidate stage error)⟩ := by
  simp [Credible, failed, early]

theorem wrote_done : Wrote ground cwd ⟨candidate, .ended (done candidate file)⟩ target ↔
    ground.writeTarget cwd (destinationOf candidate file) = .ok target := by
  rw [Wrote, done]

/-- A step that writes the target. -/
theorem writes
    (footprint : Footprint ground cwd keep candidates place (⟨candidate, .read file⟩ :: others) tree)
    (placed : Placed ground cwd candidates place lead)
    (written : tree.writeTarget cwd (destinationOf candidate file) = .ok target)
    (same : next.candidate = candidate) (credible : Credible ground cwd keep next)
    (wrote : Wrote ground cwd next target) (stays : ¬ Took keep next) :
    Footprint ground cwd keep candidates place (next :: others)
      (tree.put target (.file file.content)) := by
  obtain ⟨site, -⟩ := footprint.exists_site placed (by simp [Took])
  have takes : tree.TakesFile target := by
    rw [site.destinationOf_eq] at written
    exact (site.reaches.read_writeTarget (site.isWord_targetWord _)
      (site.zero_notMem_targetWord _) (tree.get?_parent site.stands) written).1
  refine footprint.replace placed same credible (by simp [Took]) (fun _ => False.elim)
    (FileTree.sameFrame_put takes _) (fun location => ?_) fun took => absurd took stays
  rw [tree.get?_put _ takes.admits]
  by_cases here : location = target
  · subst here
    exact .inr (.inl ⟨wrote, file.content, if_pos rfl⟩)
  · exact .inl (if_neg here)

/-- A step that takes the file away. -/
theorem clears
    (footprint : Footprint ground cwd keep candidates place (⟨candidate, .written file⟩ :: others)
      tree)
    (placed : Placed ground cwd candidates place lead)
    (discarded : discard tree cwd candidate = .ok after) :
    Footprint ground cwd keep candidates place (⟨candidate, .ended (done candidate file)⟩ :: others)
      after := by
  obtain ⟨removes, short, target, before⟩ := footprint.credible _ List.mem_cons_self
  obtain ⟨site, here⟩ := footprint.exists_site placed (by simp [Took])
  have present : tree.get? site.location = some (.file site.content) := site.stands
  rw [discard, site.remove_eq (.refl tree) present short] at discarded
  obtain ⟨-, rfl⟩ := Host.grant_eq_ok_iff.mp discarded
  have view := tree.get?_erase (by rw [present]; simp : tree.get? site.location ≠ _)
  have took : Took keep ⟨candidate, .ended (done candidate file)⟩ := ⟨removes, _, rfl⟩
  refine footprint.replace placed rfl (credible_done short before) (by simp [Took])
    (fun _ => wrote_done.mpr) (FileTree.sameFrame_erase present) (fun location => ?_)
    fun _ => by rw [← here, view, if_pos rfl]
  rw [view]
  by_cases cleared : location = site.location
  · exact .inr (.inr ⟨took, by rw [cleared, here], if_pos cleared⟩)
  · exact .inl (if_neg cleared)

/-- A step that fails to take the file away: the target stays where it was written, and the file
where it stood. -/
theorem holds
    (footprint : Footprint ground cwd keep candidates place (⟨candidate, .written file⟩ :: others)
      tree)
    (placed : Placed ground cwd candidates place lead) {error : FileError}
    (refused : discard tree cwd candidate = .error error) :
    Footprint ground cwd keep candidates place
      (⟨candidate, .ended (failed candidate .delete error)⟩ :: others) tree := by
  obtain ⟨removes, short, -⟩ := footprint.credible _ List.mem_cons_self
  obtain ⟨site, here⟩ := footprint.exists_site placed (by simp [Took])
  obtain ⟨first, here', -⟩ := placed.sited _ (footprint.mem_candidates List.mem_cons_self)
  have parents : first.parent = site.parent := (List.cons.inj (here'.trans here.symm)).2
  rw [discard, site.remove_eq (.refl tree) site.stands short] at refused
  have held : held? ground cwd candidate = some error := by
    rw [held?_eq first short, parents]
    exact Host.grant_eq_error_iff.mp refused
  exact footprint.replace placed rfl ⟨rfl, fun _ => ⟨removes, short, held⟩⟩ (by simp [Took])
    (fun location wrote => ⟨rfl, file.target, wrote⟩) (.refl tree) (fun _ => .inl rfl)
    (by simp [Took, failed])

/-- **A step of one conversion** writes where the path of its target led before the run, or takes
its file away. -/
theorem advance
    (footprint : Footprint ground cwd keep candidates place (⟨candidate, progress⟩ :: others) tree)
    (placed : Placed ground cwd candidates place lead)
    (stepped : progress.advance cwd keep tree candidate = some (after, further)) :
    Footprint ground cwd keep candidates place (⟨candidate, further⟩ :: others) after := by
  have credible := footprint.credible _ List.mem_cons_self
  cases progress with
  | ready =>
    obtain ⟨site, here⟩ := footprint.exists_site placed (by simp [Took])
    rw [Progress.advance] at stepped
    cases loaded : load tree cwd candidate with
    | error error =>
      simp only [loaded, Option.some.injEq, Prod.mk.injEq] at stepped
      obtain ⟨rfl, rfl⟩ := stepped
      exact footprint.quiet placed rfl (credible_failed (by decide)) (fun _ => id) (by simp [Took])
        (by simp [Took, failed])
    | ok file =>
      simp only [loaded, Option.some.injEq, Prod.mk.injEq] at stepped
      obtain ⟨rfl, rfl⟩ := stepped
      exact footprint.quiet placed rfl (site.loaded loaded).1 (fun _ => id) (by simp [Took])
        (by simp [Took])
  | read file =>
    rw [Progress.advance, store, FileTree.write_eq] at stepped
    cases written : tree.writeTarget cwd (destinationOf candidate file) with
    | error error =>
      simp only [written, Except.map, Option.some.injEq, Prod.mk.injEq] at stepped
      obtain ⟨rfl, rfl⟩ := stepped
      exact footprint.quiet placed rfl (credible_failed (by decide)) (fun _ => id) (by simp [Took])
        (by simp [Took, failed])
    | ok target =>
      simp only [written, Except.map, Option.some.injEq, Prod.mk.injEq] at stepped
      obtain ⟨rfl, rfl⟩ := stepped
      have before := FileTree.writeTarget_congr footprint.frame.symm written
      cases keep with
      | true =>
        exact footprint.writes placed written rfl (credible_done credible before)
          (wrote_done.mpr before) (by simp [Took])
      | false =>
        exact footprint.writes placed written rfl ⟨rfl, credible, target, before⟩ before
          (by simp [Took])
  | written file =>
    rw [Progress.advance] at stepped
    cases discarded : discard tree cwd candidate with
    | error error =>
      simp only [discarded, Option.some.injEq, Prod.mk.injEq] at stepped
      obtain ⟨rfl, rfl⟩ := stepped
      exact footprint.holds placed discarded
    | ok next =>
      simp only [discarded, Option.some.injEq, Prod.mk.injEq] at stepped
      obtain ⟨rfl, rfl⟩ := stepped
      exact footprint.clears placed discarded
  | ended outcome => cases stepped

end Footprint

end Retarget.Conversion
