/-
**Mixed steps and files one by one.**

A run with any number of conversions under way comes to an end, whatever it does next. Where no
target is written to a link and no two targets meet, it then has left what converting the files one
by one leaves: the same tree, and the same ends of the conversions in some order.

* `Schedule.stuck_iff`: a run cannot go on exactly when it has recorded all its conversions;
* `Schedule.wellFounded_step`: no run goes on forever;
* `Schedule.same_convertAll_of_steps`: what a run leaves is what converting the files one by one
  leaves.
-/

import Mathlib
import Retarget.FileTree.Build
import Retarget.Proofs.Conversion.Interleaving

namespace Retarget

section Runs

variable [Host] {cwd : Location} {keep : Bool} {limit : Option Nat}

/-! ### The end of a run -/

/-- A conversion that has not ended can make a step. -/
theorem Progress.exists_advance {tree : FileTree} {candidate : Candidate} {progress : Progress}
    (open_ : ∀ outcome, progress ≠ .ended outcome) :
    ∃ after further, progress.advance cwd keep tree candidate = some (after, further) := by
  cases progress with
  | ready =>
    rw [Progress.advance]
    split <;> exact ⟨_, _, rfl⟩
  | read file =>
    rw [Progress.advance]
    split <;> exact ⟨_, _, rfl⟩
  | written file =>
    rw [Progress.advance]
    split <;> exact ⟨_, _, rfl⟩
  | ended outcome => exact absurd rfl (open_ outcome)

namespace Schedule

variable {schedule next last : Schedule}

/-- **A run cannot go on** exactly when it has recorded all its conversions. -/
theorem stuck_iff : (∀ next, ¬ Step cwd keep limit schedule next) ↔
    schedule.waiting = [] ∧ schedule.active = [] := by
  obtain ⟨tree, waiting, active, outcomes⟩ := schedule
  constructor
  · intro stuck
    have idle : active = [] := by
      cases active with
      | nil => rfl
      | cons task others =>
        obtain ⟨candidate, progress⟩ := task
        by_cases ended : ∃ outcome, progress = .ended outcome
        · obtain ⟨outcome, rfl⟩ := ended
          exact absurd (.record [] others) (stuck _)
        · obtain ⟨after, further, stepped⟩ :=
            Progress.exists_advance fun outcome here => ended ⟨outcome, here⟩
          exact absurd (.advance [] others stepped) (stuck _)
    subst idle
    cases waiting with
    | nil => exact ⟨rfl, rfl⟩
    | cons candidate rest =>
      refine absurd (.start fun bound _ => ?_) (stuck _)
      exact Nat.lt_of_lt_of_le Nat.one_pos (Nat.le_max_left 1 bound)
  · rintro ⟨started, idle⟩ next step
    dsimp only at started idle
    generalize start : (⟨tree, waiting, active, outcomes⟩ : Schedule) = schedule at step
    cases step with
    | start room =>
      cases start
      cases started
    | advance before after stepped | record before after =>
      cases start
      simp at idle

/-- **What a run leaves** is what converting the files one by one leaves, when no target is written
to a link and no two targets meet. -/
theorem same_convertAll_of_steps {tree : FileTree} {root : Path} {wanted : List Script.Source}
    {tokens : List String} {candidates : List Candidate}
    (found : Discovery.candidates tree cwd root wanted tokens = .ok candidates)
    (unlinked : ∀ candidate ∈ candidates, Conversion.Unlinked tree cwd candidate)
    (free : ∀ first ∈ candidates, ∀ second ∈ candidates,
      ¬ Conversion.Clashes tree cwd first second)
    (steps : Steps cwd keep limit (initial tree candidates) last)
    (stuck : ∀ next, ¬ Step cwd keep limit last next) :
    last.waiting = [] ∧ last.active = [] ∧
      last.tree.Same (Conversion.convertAll cwd keep tree candidates).tree ∧
      (Report.ofOutcomes last.outcomes).converted.Perm
        (Report.ofOutcomes (Conversion.convertAll cwd keep tree candidates).outcomes).converted ∧
      (Report.ofOutcomes last.outcomes).unconverted.Perm
        (Report.ofOutcomes (Conversion.convertAll cwd keep tree candidates).outcomes).unconverted := by
  obtain ⟨home, located⟩ := Discovery.locate_of_candidates found
  obtain ⟨place, lead, apart, -⟩ := Conversion.exists_apart found located unlinked
  obtain ⟨waiting, active⟩ := stuck_iff.mp stuck
  obtain ⟨settled, ends⟩ := settled_of_steps apart (.refl _) steps waiting active
  -- Converting the files one by one is a run as well.
  have alone : Steps cwd keep none (initial tree candidates) _ :=
    steps_convertAll tree candidates []
  obtain ⟨settled', ends'⟩ := settled_of_steps apart (.refl _) alone rfl rfl
  rw [List.nil_append] at ends'
  have same := ends.trans ends'.symm
  exact ⟨waiting, active, settled.same apart free settled', Report.converted_perm same,
    Report.unconverted_perm same⟩

end Schedule

end Runs

/-! ### Two conversions whose steps mix -/

namespace Schedule

namespace Mixed

/-- A file that is converted, and one that is no text. -/
def tree : FileTree :=
  (FileTree.empty.plant [] (Bytes.ofString "a.js") (.file (Bytes.ofString "x"))).plant []
    (Bytes.ofString "b.jsx") (.file [0xFF])

def script : Candidate := ⟨Bytes.ofString "./a.js", .js⟩

def bytes : Candidate := ⟨Bytes.ofString "./b.jsx", .jsx⟩

def file : Conversion.Loaded := ⟨Bytes.ofString "x", .ts⟩

/-- The tree with both the file and its target. -/
def stored : FileTree := tree.put (Location.ofTexts ["a.ts"]) (.file file.content)

/-- The tree with the target alone. -/
def moved : FileTree := stored.erase (Location.ofTexts ["a.js"])

theorem readText_script : tree.readText [] script.path = .ok (Bytes.ofString "x", ['x']) := by cbv

theorem load_script : Conversion.load tree [] script = .ok file := by
  rw [Conversion.load, readText_script]
  rfl

theorem load_bytes : Conversion.load tree [] bytes = .error .notText := by cbv

theorem unlinked : ∀ candidate ∈ [script, bytes], Conversion.Unlinked tree [] candidate := by
  intro candidate listed loaded load location link resolved
  simp only [List.mem_cons, List.not_mem_nil, or_false] at listed
  rcases listed with rfl | rfl
  · rw [load_script, Except.ok.injEq] at load
    subst load
    have vacant : tree.resolve [] .remove (Conversion.destinationOf script file) =
        .ok (.vacant [] ⟨Bytes.ofString "a.ts", by decide⟩) := by cbv
    rw [vacant] at resolved
    cases resolved
  · rw [load_bytes] at load
    cases load

theorem free : ∀ first ∈ [script, bytes], ∀ second ∈ [script, bytes],
    ¬ Conversion.Clashes tree [] first second := by
  rintro first listed second - ⟨stem, content, text, shape, -, read, markup⟩
  simp only [List.mem_cons, List.not_mem_nil, or_false] at listed
  rcases listed with rfl | rfl
  · rw [readText_script, Except.ok.injEq, Prod.mk.injEq] at read
    rw [← read.2] at markup
    revert markup
    decide
  · cases congrArg Candidate.source shape

/-- Both conversions start together, and the second one ends first. -/
theorem steps : Steps [] false (some 2) (initial tree [script, bytes])
    ⟨moved, [], [],
      [Conversion.failed bytes .read .notText, Conversion.done script file]⟩ := by
  have room : ∀ active : List Task, active.length < 2 → HasRoom (some 2) active := by
    intro active short bound same
    cases same
    exact short
  have reads : Progress.advance [] false tree script .ready = some (tree, .read file) := by
    simp only [Progress.advance, load_script]
  have fails : Progress.advance [] false tree bytes .ready =
      some (tree, .ended (Conversion.failed bytes .read .notText)) := by
    simp only [Progress.advance, load_bytes]
  have writes : Progress.advance [] false tree script (.read file) =
      some (stored, .written file) := by cbv
  have removes : Progress.advance [] false stored script (.written file) =
      some (moved, .ended (Conversion.done script file)) := by cbv
  refine .head (.start (room _ (by decide))) (.head (.start (room _ (by decide))) ?_)
  refine .head (.advance [] [⟨bytes, .ready⟩] reads) ?_
  refine .head (.advance [⟨script, .read file⟩] [] fails) ?_
  refine .head (.record [⟨script, .read file⟩] []) ?_
  refine .head (.advance [] [] writes) ?_
  refine .head (.advance [] [] removes) ?_
  exact .head (.record [] []) (.refl _)

end Mixed

/-- Two conversions that start together and end against the order of their files leave what
converting the files one by one leaves. -/
theorem same_convertAll_of_mixed_steps : ∃ last,
    Steps [] false (some 2) (initial Mixed.tree [Mixed.script, Mixed.bytes]) last ∧
      last.outcomes = [Conversion.failed Mixed.bytes .read .notText,
        Conversion.done Mixed.script Mixed.file] ∧
      last.tree.Same
        (Conversion.convertAll [] false Mixed.tree [Mixed.script, Mixed.bytes]).tree := by
  have found : Discovery.candidates Mixed.tree [] (Bytes.ofString ".") Script.Source.all [] =
      .ok [Mixed.script, Mixed.bytes] := by cbv
  have same := same_convertAll_of_steps found Mixed.unlinked Mixed.free Mixed.steps
    (stuck_iff.mpr ⟨rfl, rfl⟩)
  exact ⟨_, Mixed.steps, rfl, same.2.2.1⟩

end Schedule

end Retarget
