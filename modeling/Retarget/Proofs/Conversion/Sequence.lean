/-
**Files converted one after another.**

A limit of one leaves a run no choice once its order is fixed: it converts the files one after
another. When originals are kept, each conversion finds its file as it was before the run, so the
tree behind them can be told: at each location stands what the last of those conversions wrote there
whose target it is, and all else is as before.

* `Progress.finish` and `Schedule.outlook`: what is left of a conversion and of a run, made without
  a pause;
* `Schedule.eq_convertAll_of_steps`: a limit of one;
* `Conversion.fate_congr`: a conversion comes to the same as long as its file stands;
* `Conversion.lastAt?` and `Conversion.convertAll_keeping`: the tree and the ends of conversions
  that keep originals.
-/

import Retarget.Proofs.Conversion.Interleaving

namespace Retarget

open FileTree (SameFrame)

/-! ### A limit of one -/

/-- What is left of a conversion, made without a pause. -/
def Progress.finish [Host] (cwd : Location) (keep : Bool) (tree : FileTree)
    (candidate : Candidate) : Progress → FileTree × Outcome
  | .ready => Conversion.convert cwd keep tree candidate
  | .read file =>
    match Conversion.store tree cwd candidate file with
    | .error error => (tree, Conversion.failed candidate .write error)
    | .ok stored =>
      if keep then (stored, Conversion.done candidate file)
      else match Conversion.discard stored cwd candidate with
        | .error error => (stored, Conversion.failed candidate .delete error)
        | .ok discarded => (discarded, Conversion.done candidate file)
  | .written file =>
    match Conversion.discard tree cwd candidate with
    | .error error => (tree, Conversion.failed candidate .delete error)
    | .ok discarded => (discarded, Conversion.done candidate file)
  | .ended outcome => (tree, outcome)

/-- **A step of a conversion** leaves what is left of it. -/
theorem Progress.finish_of_advance [Host] {cwd : Location} {keep : Bool} {tree next : FileTree}
    {candidate : Candidate} {progress further : Progress}
    (stepped : progress.advance cwd keep tree candidate = some (next, further)) :
    further.finish cwd keep next candidate = progress.finish cwd keep tree candidate := by
  cases progress with
  | ready =>
    rw [finish, Conversion.convert]
    rw [advance] at stepped
    cases load : Conversion.load tree cwd candidate with
    | error error =>
      rw [load] at stepped
      cases stepped
      rfl
    | ok file =>
      rw [load] at stepped
      cases stepped
      rfl
  | read file =>
    rw [finish]
    rw [advance] at stepped
    cases store : Conversion.store tree cwd candidate file with
    | error error =>
      rw [store] at stepped
      cases stepped
      rfl
    | ok stored =>
      rw [store] at stepped
      cases keep <;> cases stepped <;> rfl
  | written file =>
    rw [finish]
    rw [advance] at stepped
    cases discard : Conversion.discard tree cwd candidate with
    | error error =>
      rw [discard] at stepped
      cases stepped
      rfl
    | ok discarded =>
      rw [discard] at stepped
      cases stepped
      rfl
  | ended outcome => cases stepped

namespace Schedule

variable [Host] {cwd : Location} {keep : Bool} {schedule next last : Schedule}

/-- What some conversions come to that are finished one after another. -/
def finishAll (cwd : Location) (keep : Bool) (tree : FileTree) :
    List Task → FileTree × List Outcome
  | [] => (tree, [])
  | task :: rest =>
    let (next, outcome) := task.progress.finish cwd keep tree task.candidate
    let (last, outcomes) := finishAll cwd keep next rest
    (last, outcome :: outcomes)

/-- What a run comes to that finishes the conversions under way and then those that wait. -/
def outlook (cwd : Location) (keep : Bool) (schedule : Schedule) : FileTree × List Outcome :=
  let rest := finishAll cwd keep schedule.tree
    (schedule.active ++ schedule.waiting.map waitingTask)
  (rest.1, schedule.outcomes ++ rest.2)

theorem finishAll_waiting (tree : FileTree) (candidates : List Candidate) :
    finishAll cwd keep tree (candidates.map waitingTask) =
      ((Conversion.convertAll cwd keep tree candidates).tree,
        (Conversion.convertAll cwd keep tree candidates).outcomes) := by
  induction candidates generalizing tree with
  | nil => rfl
  | cons candidate rest ih =>
    rw [List.map_cons, finishAll, Conversion.convertAll]
    simp only [waitingTask, Progress.finish, ih]

/-- **A step under a limit of one** leaves the outlook of a run. -/
theorem Step.outlook_eq (step : Step cwd keep (some 1) schedule next)
    (alone : schedule.active.length ≤ 1) :
    outlook cwd keep next = outlook cwd keep schedule ∧ next.active.length ≤ 1 := by
  cases step with
  | @start tree candidate waiting active outcomes room =>
    have idle : active.length < 1 := room 1 rfl
    refine ⟨?_, by simpa using idle⟩
    simp [outlook, waitingTask]
  | @advance before after tree next waiting candidate progress further outcomes stepped =>
    simp only [List.length_append, List.length_cons] at alone
    obtain rfl : before = [] := List.length_eq_zero_iff.mp (by omega)
    obtain rfl : after = [] := List.length_eq_zero_iff.mp (by omega)
    refine ⟨?_, by simp⟩
    simp only [outlook, List.nil_append, List.cons_append, finishAll,
      Progress.finish_of_advance stepped]
  | @record before after tree waiting candidate outcome outcomes =>
    simp only [List.length_append, List.length_cons] at alone
    obtain rfl : before = [] := List.length_eq_zero_iff.mp (by omega)
    obtain rfl : after = [] := List.length_eq_zero_iff.mp (by omega)
    refine ⟨?_, by simp⟩
    simp [outlook, finishAll, Progress.finish]

theorem outlook_eq_of_steps (steps : Steps cwd keep (some 1) schedule last)
    (alone : schedule.active.length ≤ 1) : outlook cwd keep last = outlook cwd keep schedule := by
  induction steps with
  | refl => rfl
  | head step _ ih =>
    obtain ⟨same, alone'⟩ := step.outlook_eq alone
    exact (ih alone').trans same

/-- **A limit of one** leaves no choice: a run that is over has converted the files one after
another. -/
theorem eq_convertAll_of_steps {tree : FileTree} {candidates : List Candidate}
    (steps : Steps cwd keep (some 1) (initial tree candidates) last)
    (waiting : last.waiting = []) (active : last.active = []) :
    last.tree = (Conversion.convertAll cwd keep tree candidates).tree ∧
      last.outcomes = (Conversion.convertAll cwd keep tree candidates).outcomes := by
  have same := outlook_eq_of_steps steps (by simp [initial])
  have ahead : outlook cwd keep (initial tree candidates) =
      ((Conversion.convertAll cwd keep tree candidates).tree,
        (Conversion.convertAll cwd keep tree candidates).outcomes) := by
    simp [outlook, initial, finishAll_waiting]
  have behind : outlook cwd keep last = (last.tree, last.outcomes) := by
    simp [outlook, waiting, active, finishAll]
  rw [ahead, behind] at same
  exact Prod.mk.inj same

end Schedule

namespace Conversion

/-! ### What a conversion comes to in a tree of the frame -/

section Kept

variable [Host] {ground tree : FileTree} {cwd location : Location}
  {candidates list : List Candidate} {keep : Bool} {place : Candidate → Location}
  {lead : Location → Path} {candidate : Candidate}

/-- **A conversion comes to the same** in all trees of the frame in which its file stands as
before. -/
theorem fate_congr (apart : Apart ground cwd candidates place lead) (listed : candidate ∈ candidates)
    (same : SameFrame ground tree)
    (kept : tree.get? (place candidate) = ground.get? (place candidate)) :
    fate tree cwd candidate = fate ground cwd candidate := by
  obtain ⟨site, here, -⟩ := apart.sited candidate listed
  rw [← here] at kept
  have read := site.load_eq same kept
  unfold fate
  rw [read]
  cases load : load ground cwd candidate with
  | error error => rfl
  | ok file =>
    have written := site.writeTarget_congr same (apart.unlinked candidate listed) load
    simp only [written]

/-- A conversion is held alike in all trees of the frame in which its file stands as before. -/
theorem held?_congr_kept (apart : Apart ground cwd candidates place lead)
    (listed : candidate ∈ candidates) (same : SameFrame ground tree)
    (kept : tree.get? (place candidate) = ground.get? (place candidate))
    (short : candidate.path.length < 4096) :
    held? tree cwd candidate = held? ground cwd candidate := by
  obtain ⟨site, here, -⟩ := apart.sited candidate listed
  rw [← here] at kept
  rw [held?_eq site short, held?_eq (site.renew same (kept.trans site.stands)) short]
  rfl

/-- **A conversion ends the same way** in all trees of the frame in which its file stands as
before. -/
theorem verdict_congr (apart : Apart ground cwd candidates place lead)
    (listed : candidate ∈ candidates) (same : SameFrame ground tree)
    (kept : tree.get? (place candidate) = ground.get? (place candidate)) :
    verdict tree cwd keep candidate = verdict ground cwd keep candidate := by
  rw [verdict, verdict, fate_congr apart listed same kept]
  cases comes : fate ground cwd candidate with
  | unread error | unwritten error => rfl
  | moved file target =>
    obtain ⟨site, -, -⟩ := apart.sited candidate listed
    have short := (site.loaded (fate_eq_moved_iff.mp comes).1).1
    rw [held?_congr_kept apart listed same kept short]

/-! ### Originals that are kept -/

/-- What a conversion leaves at a location, if its target goes there. -/
def Fate.landed? (location : Location) : Fate → Option Entry
  | .moved file target => if target = location then some (.file file.content) else none
  | _ => none

/-- What the last of some conversions leaves at a location whose target goes there. -/
def lastAt? (ground : FileTree) (cwd location : Location) : List Candidate → Option Entry
  | [] => none
  | candidate :: rest =>
    (lastAt? ground cwd location rest).or ((fate ground cwd candidate).landed? location)

/-- **One conversion that keeps its original.** -/
theorem convert_keeping (tree : FileTree) (cwd : Location) (candidate : Candidate) :
    (convert cwd true tree candidate).2 = verdict tree cwd true candidate ∧
      (convert cwd true tree candidate).1 =
        match fate tree cwd candidate with
        | .moved file target => tree.put target (.file file.content)
        | _ => tree := by
  unfold convert verdict fate
  cases load tree cwd candidate with
  | error error => exact ⟨rfl, rfl⟩
  | ok file =>
    simp only [store, FileTree.write_eq]
    cases tree.writeTarget cwd (destinationOf candidate file) with
    | error error => exact ⟨rfl, rfl⟩
    | ok target => exact ⟨rfl, rfl⟩

/-- What one conversion that keeps its original leaves, as the tree before the run tells. -/
theorem get?_convert_keeping (apart : Apart ground cwd candidates place lead)
    (listed : candidate ∈ candidates) (same : SameFrame ground tree)
    (kept : tree.get? (place candidate) = ground.get? (place candidate)) :
    SameFrame ground (convert cwd true tree candidate).1 ∧
      ∀ location, (convert cwd true tree candidate).1.get? location =
        ((fate ground cwd candidate).landed? location).or (tree.get? location) := by
  rw [(convert_keeping tree cwd candidate).2, fate_congr apart listed same kept]
  cases comes : fate ground cwd candidate with
  | unread error | unwritten error => exact ⟨same, fun location => rfl⟩
  | moved file target =>
    have takes := (apart.takesFile listed comes).congr same
    refine ⟨same.trans (FileTree.sameFrame_put takes _), fun location => ?_⟩
    dsimp only
    rw [tree.get?_put _ takes.admits, Fate.landed?]
    by_cases here : target = location
    · rw [if_pos here, if_pos here.symm, Option.some_or]
    · rw [if_neg here, if_neg (Ne.symm here), Option.none_or]

/-- No target of a conversion is the place of a source. -/
theorem landed?_place (apart : Apart ground cwd candidates place lead)
    (listed : candidate ∈ candidates) {other : Candidate} (listed' : other ∈ candidates) :
    (fate ground cwd candidate).landed? (place other) = none := by
  cases comes : fate ground cwd candidate with
  | unread error | unwritten error => rfl
  | moved file target => exact if_neg (apart.target_ne listed listed' comes)

/-- **Conversions that keep originals**, one after another: they end as the tree before the run lets
them, and the last one of a target leaves its content there. -/
theorem convertAll_keeping (apart : Apart ground cwd candidates place lead)
    (within : ∀ candidate ∈ list, candidate ∈ candidates) (same : SameFrame ground tree)
    (kept : ∀ candidate ∈ list, tree.get? (place candidate) = ground.get? (place candidate)) :
    (convertAll cwd true tree list).outcomes = list.map (verdict ground cwd true) ∧
      ∀ location, (convertAll cwd true tree list).tree.get? location =
        (lastAt? ground cwd location list).or (tree.get? location) := by
  induction list generalizing tree with
  | nil => exact ⟨rfl, fun _ => rfl⟩
  | cons candidate rest ih =>
    obtain ⟨listed, within⟩ := List.forall_mem_cons.mp within
    obtain ⟨here, kept⟩ := List.forall_mem_cons.mp kept
    obtain ⟨frame, view⟩ := get?_convert_keeping apart listed same here
    have ends : (convert cwd true tree candidate).2 = verdict ground cwd true candidate :=
      (convert_keeping tree cwd candidate).1.trans (verdict_congr apart listed same here)
    have kept' : ∀ other ∈ rest, (convert cwd true tree candidate).1.get? (place other) =
        ground.get? (place other) := by
      intro other behind
      rw [view, landed?_place apart listed (within other behind), Option.none_or]
      exact kept other behind
    obtain ⟨outcomes, left⟩ := ih within frame kept'
    refine ⟨?_, fun location => ?_⟩
    · rw [convertAll, List.map_cons, ← ends, ← outcomes]
    · calc (convertAll cwd true tree (candidate :: rest)).tree.get? location
          = (lastAt? ground cwd location rest).or
              (((fate ground cwd candidate).landed? location).or (tree.get? location)) := by
            rw [← view, ← left]
            rfl
        _ = (lastAt? ground cwd location (candidate :: rest)).or (tree.get? location) := by
            rw [lastAt?, Option.or_assoc]

end Kept

end Conversion

end Retarget
