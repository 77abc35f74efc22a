/-
**Conversions under way at the same time.**

A run may have several conversions under way, as many as its limit allows, and their steps may mix
in any order. A conversion is under way from its start until its end is recorded.

* `Progress.advance`: the next step of one conversion;
* `Schedule.Step` and `Schedule.Steps`: what may happen next, and one after another;
* `Schedule.Telling` and `Schedule.Tells`: the same with what is told on the way;
* `Schedule.tells_convertAll`: converting the files one by one is a schedule under every limit, and
  tells the same.
-/

import Retarget.Conversion.Report

namespace Retarget

open Conversion (Loaded)

/-- How far a conversion is. -/
inductive Progress where
  | ready
  | read (file : Loaded)
  /-- The target is written, and the file is still to be removed. -/
  | written (file : Loaded)
  | ended (outcome : Outcome)
  deriving DecidableEq

/-- The next step of a conversion, if there is one. -/
def Progress.advance [Host] (cwd : Location) (keep : Bool) (tree : FileTree)
    (candidate : Candidate) : Progress → Option (FileTree × Progress)
  | .ready =>
    match Conversion.load tree cwd candidate with
    | .error error => some (tree, .ended (Conversion.failed candidate .read error))
    | .ok file => some (tree, .read file)
  | .read file =>
    match Conversion.store tree cwd candidate file with
    | .error error => some (tree, .ended (Conversion.failed candidate .write error))
    | .ok stored =>
      some (stored, if keep then .ended (Conversion.done candidate file) else .written file)
  | .written file =>
    match Conversion.discard tree cwd candidate with
    | .error error => some (tree, .ended (Conversion.failed candidate .delete error))
    | .ok discarded => some (discarded, .ended (Conversion.done candidate file))
  | .ended _ => none

/-- A conversion that is under way. -/
structure Task where
  candidate : Candidate
  progress : Progress
  deriving DecidableEq

/-- The state of a run with conversions under way; `outcomes` are those recorded so far. -/
structure Schedule where
  tree : FileTree
  waiting : List Candidate
  active : List Task
  outcomes : List Outcome

namespace Schedule

/-- Whether one more conversion may start. A limit of zero counts as one. -/
def HasRoom (limit : Option Nat) (active : List Task) : Prop :=
  ∀ bound, limit = some bound → active.length < max 1 bound

/-- What may happen next. -/
inductive Step [Host] (cwd : Location) (keep : Bool) (limit : Option Nat) :
    Schedule → Schedule → Prop
  /-- The first conversion that waits starts. -/
  | start {tree : FileTree} {candidate : Candidate} {waiting : List Candidate}
      {active : List Task} {outcomes : List Outcome} (room : HasRoom limit active) :
      Step cwd keep limit ⟨tree, candidate :: waiting, active, outcomes⟩
        ⟨tree, waiting, active ++ [⟨candidate, .ready⟩], outcomes⟩
  /-- A conversion makes its next step. -/
  | advance (before after : List Task) {tree next : FileTree} {waiting : List Candidate}
      {candidate : Candidate} {progress further : Progress} {outcomes : List Outcome}
      (stepped : progress.advance cwd keep tree candidate = some (next, further)) :
      Step cwd keep limit ⟨tree, waiting, before ++ ⟨candidate, progress⟩ :: after, outcomes⟩
        ⟨next, waiting, before ++ ⟨candidate, further⟩ :: after, outcomes⟩
  /-- The end of a conversion is recorded. -/
  | record (before after : List Task) {tree : FileTree} {waiting : List Candidate}
      {candidate : Candidate} {outcome : Outcome} {outcomes : List Outcome} :
      Step cwd keep limit
        ⟨tree, waiting, before ++ ⟨candidate, .ended outcome⟩ :: after, outcomes⟩
        ⟨tree, waiting, before ++ after, outcomes ++ [outcome]⟩

/-- What may happen one after another. -/
inductive Steps [Host] (cwd : Location) (keep : Bool) (limit : Option Nat) :
    Schedule → Schedule → Prop
  | refl (schedule : Schedule) : Steps cwd keep limit schedule schedule
  | head {first second last : Schedule} (step : Step cwd keep limit first second)
      (steps : Steps cwd keep limit second last) : Steps cwd keep limit first last

/-- The schedule in front of the first conversion. -/
def initial (tree : FileTree) (candidates : List Candidate) : Schedule := ⟨tree, candidates, [], []⟩

end Schedule

/-! ### What is told on the way -/

/-- What a conversion tells when it has come so far: the target of a file that it has read. -/
def Progress.told (candidate : Candidate) : Progress → List Notice
  | .read file => [.log (.classified candidate.path file.target)]
  | _ => []

/-- What is told when the end of a conversion is recorded. -/
def Outcome.told : Outcome → List Notice
  | .converted file => [.finished (.converted file)]
  | .unconverted file => [.finished (.unconverted file), .log (.failed file)]

namespace Schedule

/-- What may happen next, with what it tells. -/
inductive Telling [Host] (cwd : Location) (keep : Bool) (limit : Option Nat) :
    Schedule → List Notice → Schedule → Prop
  | start {tree : FileTree} {candidate : Candidate} {waiting : List Candidate}
      {active : List Task} {outcomes : List Outcome} (room : HasRoom limit active) :
      Telling cwd keep limit ⟨tree, candidate :: waiting, active, outcomes⟩ []
        ⟨tree, waiting, active ++ [⟨candidate, .ready⟩], outcomes⟩
  | advance (before after : List Task) {tree next : FileTree} {waiting : List Candidate}
      {candidate : Candidate} {progress further : Progress} {outcomes : List Outcome}
      (stepped : progress.advance cwd keep tree candidate = some (next, further)) :
      Telling cwd keep limit
        ⟨tree, waiting, before ++ ⟨candidate, progress⟩ :: after, outcomes⟩
        (further.told candidate)
        ⟨next, waiting, before ++ ⟨candidate, further⟩ :: after, outcomes⟩
  | record (before after : List Task) {tree : FileTree} {waiting : List Candidate}
      {candidate : Candidate} {outcome : Outcome} {outcomes : List Outcome} :
      Telling cwd keep limit
        ⟨tree, waiting, before ++ ⟨candidate, .ended outcome⟩ :: after, outcomes⟩
        outcome.told
        ⟨tree, waiting, before ++ after, outcomes ++ [outcome]⟩

/-- What may happen one after another, with all that it tells. -/
inductive Tells [Host] (cwd : Location) (keep : Bool) (limit : Option Nat) :
    Schedule → List Notice → Schedule → Prop
  | refl (schedule : Schedule) : Tells cwd keep limit schedule [] schedule
  | head {first second last : Schedule} {front back : List Notice}
      (step : Telling cwd keep limit first front second)
      (rest : Tells cwd keep limit second back last) :
      Tells cwd keep limit first (front ++ back) last

variable [Host] {cwd : Location} {keep : Bool} {limit : Option Nat}

theorem Telling.step {first next : Schedule} {told : List Notice}
    (telling : Telling cwd keep limit first told next) : Step cwd keep limit first next := by
  cases telling with
  | start room => exact .start room
  | advance before after stepped => exact .advance before after stepped
  | record before after => exact .record before after

/-- Every step tells something, be it nothing. -/
theorem Step.exists_telling {first next : Schedule} (step : Step cwd keep limit first next) :
    ∃ told, Telling cwd keep limit first told next := by
  cases step with
  | start room => exact ⟨_, .start room⟩
  | advance before after stepped => exact ⟨_, .advance before after stepped⟩
  | record before after => exact ⟨_, .record before after⟩

theorem Tells.steps {first last : Schedule} {told : List Notice}
    (tells : Tells cwd keep limit first told last) : Steps cwd keep limit first last := by
  induction tells with
  | refl => exact .refl _
  | head step _ ih => exact .head step.step ih

theorem Steps.exists_tells {first last : Schedule} (steps : Steps cwd keep limit first last) :
    ∃ told, Tells cwd keep limit first told last := by
  induction steps with
  | refl => exact ⟨_, .refl _⟩
  | head step _ ih =>
    obtain ⟨front, telling⟩ := step.exists_telling
    obtain ⟨back, tells⟩ := ih
    exact ⟨_, .head telling tells⟩

theorem Tells.trans {first second last : Schedule} {front back : List Notice}
    (there : Tells cwd keep limit first front second)
    (further : Tells cwd keep limit second back last) :
    Tells cwd keep limit first (front ++ back) last := by
  induction there with
  | refl => exact further
  | head step _ ih =>
    rw [List.append_assoc]
    exact .head step (ih further)

/-- Where nothing is under way, the first conversion that waits may start. -/
theorem Tells.start {tree : FileTree} {waiting : List Candidate} {candidate : Candidate}
    {outcomes : List Outcome} {last : Schedule} {told : List Notice}
    (rest : Tells cwd keep limit ⟨tree, waiting, [⟨candidate, .ready⟩], outcomes⟩ told last) :
    Tells cwd keep limit ⟨tree, candidate :: waiting, [], outcomes⟩ told last :=
  .head (.start fun bound _ => Nat.lt_of_lt_of_le Nat.one_pos (Nat.le_max_left 1 bound)) rest

/-- The only conversion under way makes a step. -/
theorem Tells.advance {tree : FileTree} {waiting : List Candidate} {candidate : Candidate}
    {progress : Progress} {outcomes : List Outcome} {last : Schedule} {back : List Notice}
    (next : FileTree) (further : Progress)
    (stepped : progress.advance cwd keep tree candidate = some (next, further))
    (rest : Tells cwd keep limit ⟨next, waiting, [⟨candidate, further⟩], outcomes⟩ back last) :
    Tells cwd keep limit ⟨tree, waiting, [⟨candidate, progress⟩], outcomes⟩
      (further.told candidate ++ back) last :=
  .head (.advance [] [] stepped) rest

/-- The only conversion under way makes a step that tells nothing. -/
theorem Tells.pass {tree : FileTree} {waiting : List Candidate} {candidate : Candidate}
    {progress : Progress} {outcomes : List Outcome} {last : Schedule} {back : List Notice}
    (next : FileTree) (further : Progress)
    (stepped : progress.advance cwd keep tree candidate = some (next, further))
    (silent : further.told candidate = [])
    (rest : Tells cwd keep limit ⟨next, waiting, [⟨candidate, further⟩], outcomes⟩ back last) :
    Tells cwd keep limit ⟨tree, waiting, [⟨candidate, progress⟩], outcomes⟩ back last := by
  have tells := Tells.advance next further stepped rest
  rwa [silent, List.nil_append] at tells

/-- The end of the only conversion under way is recorded. -/
theorem Tells.record {tree : FileTree} {waiting : List Candidate} {candidate : Candidate}
    {outcome : Outcome} {outcomes : List Outcome} :
    Tells cwd keep limit ⟨tree, waiting, [⟨candidate, .ended outcome⟩], outcomes⟩ outcome.told
      ⟨tree, waiting, [], outcomes ++ [outcome]⟩ := by
  have recorded : Tells cwd keep limit
      ⟨tree, waiting, [⟨candidate, .ended outcome⟩], outcomes⟩ (outcome.told ++ [])
      ⟨tree, waiting, [], outcomes ++ [outcome]⟩ := .head (.record [] []) (.refl _)
  rwa [List.append_nil] at recorded

omit [Host] in
/-- What a conversion tells: the target of a file that could be read, and then its end. -/
theorem notices_eq (tree : FileTree) (candidate : Candidate) (outcome : Outcome) :
    Conversion.notices tree cwd candidate outcome =
      (match Conversion.load tree cwd candidate with
        | .ok file => Progress.told candidate (.read file)
        | .error _ => []) ++ outcome.told := by
  unfold Conversion.notices
  cases Conversion.load tree cwd candidate <;> cases outcome <;> rfl

/-- **One conversion without a pause** is a part of a schedule, and tells what it tells there. -/
theorem tells_convert (tree : FileTree) (candidate : Candidate) (waiting : List Candidate)
    (outcomes : List Outcome) :
    Tells cwd keep limit ⟨tree, candidate :: waiting, [], outcomes⟩
      (Conversion.notices tree cwd candidate (Conversion.convert cwd keep tree candidate).2)
      ⟨(Conversion.convert cwd keep tree candidate).1, waiting, [],
        outcomes ++ [(Conversion.convert cwd keep tree candidate).2]⟩ := by
  rw [notices_eq, Conversion.convert]
  apply Tells.start
  cases load : Conversion.load tree cwd candidate with
  | error error =>
    rw [List.nil_append]
    exact .pass tree _ (by simp [Progress.advance, load]) rfl .record
  | ok loaded =>
    refine .advance tree (.read loaded) (by simp [Progress.advance, load]) ?_
    dsimp only
    cases store : Conversion.store tree cwd candidate loaded with
    | error error => exact .pass tree _ (by simp [Progress.advance, store]) rfl .record
    | ok stored =>
      dsimp only
      by_cases kept : keep = true
      · rw [if_pos kept]
        exact .pass stored _ (by simp [Progress.advance, store, kept]) rfl .record
      · rw [if_neg kept]
        refine .pass stored (.written loaded) (by simp [Progress.advance, store, kept]) rfl ?_
        cases discard : Conversion.discard stored cwd candidate with
        | error error => exact .pass stored _ (by simp [Progress.advance, discard]) rfl .record
        | ok discarded =>
          exact .pass discarded _ (by simp [Progress.advance, discard]) rfl .record

/-- **Converting the files one by one is a schedule**, whatever the limit, and tells what it tells
there. -/
theorem tells_convertAll (tree : FileTree) (candidates : List Candidate)
    (outcomes : List Outcome) :
    Tells cwd keep limit ⟨tree, candidates, [], outcomes⟩
      (Conversion.convertAll cwd keep tree candidates).notices
      ⟨(Conversion.convertAll cwd keep tree candidates).tree, [], [],
        outcomes ++ (Conversion.convertAll cwd keep tree candidates).outcomes⟩ := by
  induction candidates generalizing tree outcomes with
  | nil => simpa [Conversion.convertAll] using Tells.refl _
  | cons candidate rest ih =>
    rw [Conversion.convertAll]
    refine (tells_convert tree candidate rest outcomes).trans ?_
    simpa using ih (Conversion.convert cwd keep tree candidate).1
      (outcomes ++ [(Conversion.convert cwd keep tree candidate).2])

/-- Converting the files one by one is a schedule. -/
theorem steps_convertAll (tree : FileTree) (candidates : List Candidate)
    (outcomes : List Outcome) :
    Steps cwd keep limit ⟨tree, candidates, [], outcomes⟩
      ⟨(Conversion.convertAll cwd keep tree candidates).tree, [], [],
        outcomes ++ (Conversion.convertAll cwd keep tree candidates).outcomes⟩ :=
  (tells_convertAll tree candidates outcomes).steps

end Schedule

end Retarget
