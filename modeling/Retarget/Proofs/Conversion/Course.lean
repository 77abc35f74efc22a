/-
**Conversions on their course.**

No conversion changes what another one reads or where it writes. So the tree in the midst of a run
can be told from the tree before it and from how far each conversion is, whatever order their steps
took.

* `Conversion.OnCourse`: a conversion is where the tree before the run lets it be;
* `Conversion.Portrays`: the tree between two steps, as the tasks tell it;
* `Conversion.Portrays.writes` and `clears`: the steps that change the tree;
* `Conversion.Portrays.advance`: a step of one conversion leaves the tree that the tasks tell.
-/

import Retarget.Conversion.Schedule
import Retarget.Proofs.Conversion.Apart

namespace Retarget.Conversion

open FileTree (SameFrame)

/-! ### How far a conversion is -/

section Progress

variable [Host] (ground : FileTree) (cwd : Location) (keep : Bool)

/-- Whether a conversion is where the tree before the run lets it be. -/
def OnCourse (task : Task) : Prop :=
  match task.progress with
  | .ready => True
  | .read file => load ground cwd task.candidate = .ok file
  | .written file => keep = false ∧ ∃ target, fate ground cwd task.candidate = .moved file target
  | .ended outcome => outcome = verdict ground cwd keep task.candidate

/-- Whether a conversion has written its file to a location. -/
def HasStored (task : Task) (file : Loaded) (location : Location) : Prop :=
  match task.progress with
  | .ready | .read _ => False
  | .written _ | .ended _ => fate ground cwd task.candidate = .moved file location

/-- Whether a conversion has taken its file away. -/
def HasLeft (task : Task) : Prop :=
  match task.progress with
  | .ended _ => Discards ground cwd keep task.candidate ∧
      ∃ file target, fate ground cwd task.candidate = .moved file target
  | _ => False

theorem HasStored.moved {ground : FileTree} {cwd location : Location} {task : Task} {file : Loaded}
    (stored : HasStored ground cwd task file location) :
    fate ground cwd task.candidate = .moved file location := by
  unfold HasStored at stored
  split at stored <;> first | exact stored.elim | exact stored

end Progress

/-- **The tree between two steps.** The files of the conversions that took them away are gone, at
each location that was written to is one of the files written there, and all else is as before. -/
structure Portrays [Host] (ground : FileTree) (cwd : Location) (keep : Bool)
    (candidates : List Candidate) (place : Candidate → Location) (tasks : List Task)
    (tree : FileTree) : Prop where
  listed : (tasks.map (·.candidate)).Perm candidates
  course : ∀ task ∈ tasks, OnCourse ground cwd keep task
  frame : SameFrame ground tree
  left : ∀ task ∈ tasks, HasLeft ground cwd keep task → tree.get? (place task.candidate) = none
  stored : ∀ task ∈ tasks, ∀ file location, HasStored ground cwd task file location →
    ∃ last ∈ tasks, ∃ kept, HasStored ground cwd last kept location ∧
      tree.get? location = some (.file kept.content)
  untouched : ∀ location,
    (∀ task ∈ tasks, HasLeft ground cwd keep task → place task.candidate ≠ location) →
      (∀ task ∈ tasks, ∀ file, ¬ HasStored ground cwd task file location) →
        tree.get? location = ground.get? location

namespace Portrays

variable [Host] {ground tree : FileTree} {cwd target : Location} {keep : Bool}
  {candidates : List Candidate} {place : Candidate → Location} {lead : Location → Path}
  {tasks others : List Task} {task next : Task} {file : Loaded}

/-- The order of the tasks does not matter. -/
theorem perm (portrays : Portrays ground cwd keep candidates place tasks tree)
    (same : tasks.Perm others) : Portrays ground cwd keep candidates place others tree := by
  obtain ⟨listed, course, frame, left, stored, untouched⟩ := portrays
  simp only [same.mem_iff] at course left stored untouched
  exact ⟨(same.symm.map _).trans listed, course, frame, left, stored, untouched⟩

theorem mem_candidates (portrays : Portrays ground cwd keep candidates place tasks tree)
    (inside : task ∈ tasks) : task.candidate ∈ candidates :=
  portrays.listed.mem_iff.mp (List.mem_map_of_mem inside)

/-- The file of a conversion that has not taken it away is as before. -/
theorem source (portrays : Portrays ground cwd keep candidates place (task :: others) tree)
    (apart : Apart ground cwd candidates place lead) (stays : ¬ HasLeft ground cwd keep task) :
    tree.get? (place task.candidate) = ground.get? (place task.candidate) := by
  have listed := portrays.mem_candidates List.mem_cons_self
  have once := portrays.listed.nodup_iff.mpr apart.nodup
  rw [List.map_cons, List.nodup_cons] at once
  refine portrays.untouched _ ?_ ?_
  · intro other inside gone same
    have equal := apart.distinct _ (portrays.mem_candidates inside) _ listed same
    rcases List.mem_cons.mp inside with rfl | behind
    · exact stays gone
    · exact once.1 (equal ▸ List.mem_map_of_mem behind)
  · intro other inside file stored
    exact apart.target_ne (portrays.mem_candidates inside) listed stored.moved rfl

/-! ### The three kinds of step -/

/-- Another task of the same candidate in the place of the first one. -/
theorem replaced (portrays : Portrays ground cwd keep candidates place (task :: others) tree)
    (same : next.candidate = task.candidate) (course : OnCourse ground cwd keep next) :
    ((next :: others).map (·.candidate)).Perm candidates ∧
      ∀ other ∈ next :: others, OnCourse ground cwd keep other := by
  constructor
  · rw [List.map_cons, same]
    exact portrays.listed
  · exact List.forall_mem_cons.mpr ⟨course, (List.forall_mem_cons.mp portrays.course).2⟩

/-- A step that leaves the tree as it is. -/
theorem quiet (portrays : Portrays ground cwd keep candidates place (task :: others) tree)
    (same : next.candidate = task.candidate) (course : OnCourse ground cwd keep next)
    (stored : ∀ file location, HasStored ground cwd next file location ↔
      HasStored ground cwd task file location)
    (left : HasLeft ground cwd keep next ↔ HasLeft ground cwd keep task) :
    Portrays ground cwd keep candidates place (next :: others) tree := by
  obtain ⟨listed, courses⟩ := portrays.replaced same course
  refine ⟨listed, courses, portrays.frame, ?_, ?_, ?_⟩
  · have gone := portrays.left
    rw [List.forall_mem_cons] at gone ⊢
    rwa [same, left]
  · have there := portrays.stored
    simp only [List.forall_mem_cons, List.exists_mem_cons_iff, stored] at there ⊢
    exact there
  · have rest := portrays.untouched
    simp only [List.forall_mem_cons, stored, left, same] at rest ⊢
    exact rest

/-- **A step that writes** the target of a conversion. -/
theorem writes (portrays : Portrays ground cwd keep candidates place (task :: others) tree)
    (apart : Apart ground cwd candidates place lead)
    (moved : fate ground cwd task.candidate = .moved file target)
    (fresh : ∀ file location, ¬ HasStored ground cwd task file location)
    (same : next.candidate = task.candidate) (course : OnCourse ground cwd keep next)
    (stored : ∀ file' location, HasStored ground cwd next file' location ↔
      fate ground cwd task.candidate = .moved file' location)
    (stays : ¬ HasLeft ground cwd keep task) (left : ¬ HasLeft ground cwd keep next) :
    Portrays ground cwd keep candidates place (next :: others)
      (tree.put target (.file file.content)) := by
  have listed := portrays.mem_candidates List.mem_cons_self
  have takes := (apart.takesFile listed moved).congr portrays.frame
  have view := tree.get?_put (.file file.content) takes.admits
  have here : HasStored ground cwd next file target := (stored file target).mpr moved
  obtain ⟨all, courses⟩ := portrays.replaced same course
  refine ⟨all, courses, portrays.frame.trans (FileTree.sameFrame_put takes _), ?_, ?_, ?_⟩
  · refine List.forall_mem_cons.mpr ⟨fun gone => absurd gone left, fun other behind gone => ?_⟩
    have inside := List.mem_cons_of_mem task behind
    rw [view, if_neg (apart.target_ne listed (portrays.mem_candidates inside) moved).symm]
    exact portrays.left other inside gone
  · -- What was written before stands where it stood, unless it is written over now.
    have before : ∀ location, location ≠ target → (∃ last ∈ task :: others, ∃ kept,
        HasStored ground cwd last kept location ∧ tree.get? location = some (.file kept.content)) →
        ∃ last ∈ next :: others, ∃ kept, HasStored ground cwd last kept location ∧
          (tree.put target (.file file.content)).get? location = some (.file kept.content) := by
      rintro location elsewhere ⟨last, inside, kept, there, present⟩
      rcases List.mem_cons.mp inside with rfl | behind
      · exact absurd there (fresh kept location)
      · exact ⟨last, List.mem_cons_of_mem _ behind, kept, there, by rwa [view, if_neg elsewhere]⟩
    intro other inside file' location there
    by_cases elsewhere : location = target
    · subst elsewhere
      exact ⟨next, List.mem_cons_self, file, here, by rw [view, if_pos rfl]⟩
    · refine before location elsewhere ?_
      rcases List.mem_cons.mp inside with rfl | behind
      · rw [stored, moved, Fate.moved.injEq] at there
        exact absurd there.2.symm elsewhere
      · exact portrays.stored other (List.mem_cons_of_mem _ behind) file' location there
  · intro location gone unwritten
    rw [List.forall_mem_cons] at gone unwritten
    have elsewhere : location ≠ target := by
      rintro rfl
      exact unwritten.1 file here
    rw [view, if_neg elsewhere]
    refine portrays.untouched location ?_ ?_
    · exact List.forall_mem_cons.mpr ⟨fun lost => absurd lost stays, gone.2⟩
    · exact List.forall_mem_cons.mpr ⟨fun file' => fresh file' location, unwritten.2⟩

/-- **A step that takes away** the file of a conversion. -/
theorem clears (portrays : Portrays ground cwd keep candidates place (task :: others) tree)
    (apart : Apart ground cwd candidates place lead)
    (present : ∃ content, tree.get? (place task.candidate) = some (.file content))
    (same : next.candidate = task.candidate) (course : OnCourse ground cwd keep next)
    (stored : ∀ file location, HasStored ground cwd next file location ↔
      HasStored ground cwd task file location)
    (stays : ¬ HasLeft ground cwd keep task) (left : HasLeft ground cwd keep next) :
    Portrays ground cwd keep candidates place (next :: others)
      (tree.erase (place task.candidate)) := by
  obtain ⟨content, present⟩ := present
  have listed := portrays.mem_candidates List.mem_cons_self
  have view := tree.get?_erase (by rw [present]; simp : tree.get? (place task.candidate) ≠ _)
  obtain ⟨all, courses⟩ := portrays.replaced same course
  refine ⟨all, courses, portrays.frame.trans (FileTree.sameFrame_erase present), ?_, ?_, ?_⟩
  · refine List.forall_mem_cons.mpr ⟨fun _ => by rw [same, view, if_pos rfl], ?_⟩
    intro other behind gone
    rw [view]
    split
    · rfl
    · exact portrays.left other (List.mem_cons_of_mem _ behind) gone
  · have there := portrays.stored
    simp only [List.forall_mem_cons, List.exists_mem_cons_iff, stored] at there ⊢
    -- No target is the place that is cleared now.
    have kept : ∀ location,
        (∃ last ∈ task :: others, ∃ file, HasStored ground cwd last file location) →
          (tree.erase (place task.candidate)).get? location = tree.get? location := by
      rintro location ⟨last, inside, file, written⟩
      rw [view, if_neg (apart.target_ne (portrays.mem_candidates inside) listed written.moved)]
    refine ⟨fun file location written => ?_, fun other behind file location written => ?_⟩
    · rw [kept location ⟨task, List.mem_cons_self, file, written⟩]
      exact there.1 file location written
    · rw [kept location ⟨other, List.mem_cons_of_mem _ behind, file, written⟩]
      exact there.2 other behind file location written
  · intro location gone unwritten
    simp only [List.forall_mem_cons, stored, same] at gone unwritten
    rw [view, if_neg (gone.1 left).symm]
    refine portrays.untouched location ?_ ?_
    · exact List.forall_mem_cons.mpr ⟨fun lost => absurd lost stays, gone.2⟩
    · exact List.forall_mem_cons.mpr unwritten

/-! ### One step of a conversion -/

variable {candidate : Candidate} {progress further : Progress} {after : FileTree}

/-- A file that is still there is read as before. -/
theorem load_eq (portrays : Portrays ground cwd keep candidates place (task :: others) tree)
    (apart : Apart ground cwd candidates place lead) (stays : ¬ HasLeft ground cwd keep task) :
    load tree cwd task.candidate = load ground cwd task.candidate := by
  have listed := portrays.mem_candidates List.mem_cons_self
  obtain ⟨site, stands, -⟩ := apart.sited _ listed
  refine site.load_eq portrays.frame ?_
  rw [stands]
  exact portrays.source apart stays

/-- A target is written where it would be written before the run. -/
theorem store_eq (portrays : Portrays ground cwd keep candidates place (task :: others) tree)
    (apart : Apart ground cwd candidates place lead)
    (read : load ground cwd task.candidate = .ok file) :
    store tree cwd task.candidate file =
      (ground.writeTarget cwd (destinationOf task.candidate file)).map
        fun target => tree.put target (.file file.content) := by
  have listed := portrays.mem_candidates List.mem_cons_self
  obtain ⟨site, -, -⟩ := apart.sited _ listed
  rw [store, FileTree.write_eq,
    site.writeTarget_congr portrays.frame (apart.unlinked _ listed) read]

/-- A file that is still there is taken away, unless it is held. -/
theorem discard_eq (portrays : Portrays ground cwd keep candidates place (task :: others) tree)
    (apart : Apart ground cwd candidates place lead) (stays : ¬ HasLeft ground cwd keep task)
    (read : load ground cwd task.candidate = .ok file) :
    (∃ content, tree.get? (place task.candidate) = some (.file content)) ∧
      discard tree cwd task.candidate =
        Host.grant (held? ground cwd task.candidate) (tree.erase (place task.candidate)) := by
  have listed := portrays.mem_candidates List.mem_cons_self
  obtain ⟨site, stands, -⟩ := apart.sited _ listed
  have present : tree.get? (place task.candidate) = some (.file site.content) := by
    rw [portrays.source apart stays, ← stands]
    exact site.stands
  have short := (site.loaded read).1
  refine ⟨⟨_, present⟩, ?_⟩
  rw [← stands] at present ⊢
  rw [held?_eq site short]
  exact site.remove_eq portrays.frame present short

/-- **A step of one conversion** leaves the tree that the tasks tell. -/
theorem advance
    (portrays : Portrays ground cwd keep candidates place (⟨candidate, progress⟩ :: others) tree)
    (apart : Apart ground cwd candidates place lead)
    (stepped : progress.advance cwd keep tree candidate = some (after, further)) :
    Portrays ground cwd keep candidates place (⟨candidate, further⟩ :: others) after := by
  have course := portrays.course _ List.mem_cons_self
  cases progress with
  | ready =>
    have read := portrays.load_eq apart id
    rw [Progress.advance, read] at stepped
    cases loaded : load ground cwd candidate with
    | error error =>
      simp only [loaded, Option.some.injEq, Prod.mk.injEq] at stepped
      obtain ⟨rfl, rfl⟩ := stepped
      have unread : fate ground cwd candidate = .unread error := by simp only [fate, loaded]
      refine portrays.quiet rfl ?_ ?_ ?_ <;> simp [OnCourse, HasStored, HasLeft, unread, verdict]
    | ok file =>
      simp only [loaded, Option.some.injEq, Prod.mk.injEq] at stepped
      obtain ⟨rfl, rfl⟩ := stepped
      exact portrays.quiet rfl loaded (fun _ _ => Iff.rfl) Iff.rfl
  | read file =>
    rw [Progress.advance, portrays.store_eq apart course] at stepped
    cases written : ground.writeTarget cwd (destinationOf candidate file) with
    | error error =>
      simp only [written, Except.map, Option.some.injEq, Prod.mk.injEq] at stepped
      obtain ⟨rfl, rfl⟩ := stepped
      have read : load ground cwd candidate = .ok file := course
      have unwritten : fate ground cwd candidate = .unwritten error := by
        simp only [fate, read, written]
      refine portrays.quiet rfl ?_ ?_ ?_ <;>
        simp [OnCourse, HasStored, HasLeft, unwritten, verdict]
    | ok target =>
      simp only [written, Except.map, Option.some.injEq, Prod.mk.injEq] at stepped
      obtain ⟨rfl, rfl⟩ := stepped
      have moved : fate ground cwd candidate = .moved file target :=
        fate_eq_moved_iff.mpr ⟨course, written⟩
      cases keep with
      | true =>
        exact portrays.writes apart moved (fun _ _ => id) rfl (by simp [OnCourse, moved, verdict])
          (fun _ _ => Iff.rfl) id (by simp [HasLeft, Discards])
      | false =>
        exact portrays.writes apart moved (fun _ _ => id) rfl ⟨rfl, target, moved⟩
          (fun _ _ => Iff.rfl) id id
  | written file =>
    obtain ⟨removes, target, moved⟩ := course
    have moved : fate ground cwd candidate = .moved file target := moved
    obtain ⟨present, discarded⟩ := portrays.discard_eq apart id (fate_eq_moved_iff.mp moved).1
    rw [Progress.advance, discarded] at stepped
    cases held : held? ground cwd candidate with
    | none =>
      simp only [held, Host.grant, Option.some.injEq, Prod.mk.injEq] at stepped
      obtain ⟨rfl, rfl⟩ := stepped
      exact portrays.clears apart present rfl (verdict_of_moved moved (.inr held)).symm
        (fun _ _ => Iff.rfl) id ⟨⟨removes, held⟩, file, target, moved⟩
    | some error =>
      simp only [held, Host.grant, Option.some.injEq, Prod.mk.injEq] at stepped
      obtain ⟨rfl, rfl⟩ := stepped
      subst removes
      exact portrays.quiet rfl (verdict_of_held moved held).symm (fun _ _ => Iff.rfl)
        (by simp [HasLeft, Discards, held])
  | ended outcome => cases stepped

end Portrays

end Retarget.Conversion
