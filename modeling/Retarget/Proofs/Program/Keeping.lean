/-
**A program that keeps originals.**

When originals are kept no conversion removes anything, whatever order the steps mix in. So a
command line with the flag for it removes no file, when the flag is read as one: no `--` and no
token stands in front of it.

* `Schedule.grows_of_steps`: the steps of a run that keeps originals;
* `Program.MayLeave` and `Program.mayLeave_run`: the trees that a command line may leave;
* `Program.grows_of_keepFlag`: a command line with the flag removes nothing.
-/

import Mathlib
import Retarget.FileTree.Build
import Retarget.Program
import Retarget.Proofs.Arguments.KeepOriginals
import Retarget.Proofs.Conversion.Preservation
import Retarget.Proofs.FileTree.Effect
import Retarget.Proofs.Settings.Loading

namespace Retarget

/-! ### Trees that grow -/

namespace FileTree.Grows

variable {tree after : FileTree}

theorem of_write [Host] {cwd : Location} {path : Path} {content : Bytes}
    (written : tree.write cwd path content = .ok after) : tree.Grows after := by
  rw [write_eq] at written
  obtain ⟨location, -, rfl⟩ := exists_of_map_eq_ok written
  exact put tree location _

end FileTree.Grows

/-! ### Runs that keep originals -/

namespace Schedule

variable [Host] {cwd : Location} {limit : Option Nat} {schedule next last : Schedule}

/-- Whether no file of a conversion under way is still to be removed. -/
def RemovesNone (schedule : Schedule) : Prop :=
  ∀ task ∈ schedule.active, ∀ file, task.progress ≠ .written file

theorem grows_of_advance {tree after : FileTree} {candidate : Candidate}
    {progress further : Progress} (pending : ∀ file, progress ≠ .written file)
    (stepped : progress.advance cwd true tree candidate = some (after, further)) :
    tree.Grows after ∧ ∀ file, further ≠ .written file := by
  cases progress with
  | ready =>
    rw [Progress.advance] at stepped
    split at stepped <;> cases stepped <;> exact ⟨.refl tree, by simp⟩
  | read file =>
    rw [Progress.advance] at stepped
    split at stepped
    · cases stepped
      exact ⟨.refl tree, by simp⟩
    · next stored written =>
      cases stepped
      exact ⟨.of_write written, by simp⟩
  | written file => exact absurd rfl (pending file)
  | ended outcome => cases stepped

/-- **A step that keeps originals** takes nothing away. -/
theorem Step.grows (step : Step cwd true limit schedule next) (none : schedule.RemovesNone) :
    schedule.tree.Grows next.tree ∧ next.RemovesNone := by
  cases step with
  | start room =>
    refine ⟨.refl _, fun task inside => ?_⟩
    rcases List.mem_append.mp inside with before | new
    · exact none task before
    · rw [List.mem_singleton.mp new]
      simp
  | advance before after stepped =>
    obtain ⟨grows, further⟩ :=
      grows_of_advance (none _ (List.mem_append_right _ List.mem_cons_self)) stepped
    refine ⟨grows, fun task inside => ?_⟩
    rcases List.mem_append.mp inside with before | behind
    · exact none task (List.mem_append_left _ before)
    · rcases List.mem_cons.mp behind with rfl | behind
      · exact further
      · exact none task (List.mem_append_right _ (List.mem_cons_of_mem _ behind))
  | record before after =>
    refine ⟨.refl _, fun task inside => ?_⟩
    rcases List.mem_append.mp inside with before | behind
    · exact none task (List.mem_append_left _ before)
    · exact none task (List.mem_append_right _ (List.mem_cons_of_mem _ behind))

/-- **A run that keeps originals** takes nothing away, at no time. -/
theorem grows_of_steps (steps : Steps cwd true limit schedule last) (none : schedule.RemovesNone) :
    schedule.tree.Grows last.tree := by
  induction steps with
  | refl => exact .refl _
  | head step _ ih =>
    obtain ⟨grows, none'⟩ := step.grows none
    exact grows.trans (ih none')

end Schedule

theorem Conversion.grows_of_mayEnd [Host] {tree after : FileTree} {cwd : Location}
    {settings : Settings} {report : Report} (keeps : settings.keepOriginals = true)
    (ends : MayEnd tree cwd settings after report) : tree.Grows after := by
  obtain ⟨_, order, outcomes, -, -, steps, -⟩ := ends
  rw [keeps] at steps
  exact Schedule.grows_of_steps steps (by simp [Schedule.RemovesNone, Schedule.initial])

/-! ### The program -/

namespace Program

section Leaving

variable [Host] {tree : FileTree} {cwd : Location} {front back : List Bytes}

/-- Whether a command line may leave a tree. A fault before the first conversion leaves the tree as
it is; the conversions of a run may mix. -/
def MayLeave (tree : FileTree) (cwd : Location) (line : List Bytes) (after : FileTree) : Prop :=
  match Arguments.ofList line with
  | .error _ => after = tree
  | .ok arguments =>
    match Settings.load tree cwd arguments with
    | .error _ => after = tree
    | .ok settings =>
      match Discovery.candidates tree cwd settings.root settings.sources settings.tokens with
      | .error _ => after = tree
      | .ok _ => ∃ report, Conversion.MayEnd tree cwd settings after report

theorem tree_convert (tree : FileTree) (cwd : Location) (settings : Settings) :
    (convert tree cwd settings).tree = (Conversion.run tree cwd settings).tree := by
  unfold convert
  dsimp only
  split
  · rfl
  · split <;> rfl

/-- **The program** leaves one of the trees that its command line may leave. -/
theorem mayLeave_run (tree : FileTree) (cwd : Location) (line : List Bytes)
    (asked : Option Bytes) : MayLeave tree cwd line (run tree cwd line asked).tree := by
  unfold MayLeave run
  cases Arguments.ofList line with
  | error stop => rfl
  | ok arguments =>
    dsimp only
    cases Settings.load tree cwd arguments with
    | error failure => rfl
    | ok settings =>
      dsimp only
      rw [tree_convert]
      exact Conversion.mayLeave_of_run tree cwd settings

omit [Host] in
/-- **The settings of a command line** come from its arguments and from the file that it names. -/
theorem merged_of_load {arguments : Arguments} {settings : Settings}
    (load : Settings.load tree cwd arguments = .ok settings) :
    ∃ (directory : String) (file : FileSettings),
      Settings.ofFile tree cwd arguments.config = .ok file ∧ settings =
      { root := Path.clean (Bytes.ofString directory)
        tokens := Ignore.merge (arguments.ignore ++ file.ignore)
        keepOriginals := arguments.keepOriginals || file.keepOriginals
        strict := arguments.strict || file.strict
        maxConcurrency := arguments.maxConcurrency.or file.maxConcurrency } := by
  cases Settings.load_eq_iff.mp load with
  | @merged file directory gives =>
    rw [← Settings.or_eq_limitOf]
    exact ⟨directory, file, Settings.ofFile_eq_iff.mpr gives, rfl⟩

omit [Host] in
/-- Settings keep originals when the command line asks for it. -/
theorem keepOriginals_of_load {arguments : Arguments} {settings : Settings}
    (keeps : arguments.keepOriginals = true)
    (load : Settings.load tree cwd arguments = .ok settings) : settings.keepOriginals = true := by
  obtain ⟨directory, file, -, rfl⟩ := merged_of_load load
  simp [keeps]

/-- **A command line with the flag that keeps originals** removes nothing, when no `--` and no token
stands in front of the flag. -/
theorem grows_of_keepFlag (plain : [0x2D, 0x2D] ∉ front)
    (bare : ∀ earlier, Arguments.ofList front = .ok earlier → earlier.ignore = []) :
    (∀ asked, tree.Grows (run tree cwd (front ++ Arguments.keepFlag :: back) asked).tree) ∧
      ∀ after, MayLeave tree cwd (front ++ Arguments.keepFlag :: back) after → tree.Grows after := by
  have grows : ∀ after, MayLeave tree cwd (front ++ Arguments.keepFlag :: back) after →
      tree.Grows after := by
    intro after leaves
    unfold MayLeave at leaves
    split at leaves
    · rw [leaves]
      exact .refl tree
    · next arguments read =>
      have keeps := Arguments.keepOriginals_of_ofList plain bare read
      split at leaves
      · rw [leaves]
        exact .refl tree
      · next settings load =>
        split at leaves
        · rw [leaves]
          exact .refl tree
        · obtain ⟨report, ends⟩ := leaves
          exact Conversion.grows_of_mayEnd (keepOriginals_of_load keeps load) ends
  exact ⟨fun asked => grows _ (mayLeave_run tree cwd _ asked), grows⟩

end Leaving

/-! ### The flag in front of a token and behind one -/

namespace Flagged

/-- One file to convert. -/
def tree : FileTree := FileTree.empty.plant [] (Bytes.ofString "r/a.jsx") (.file [])

def location : Location := Location.ofTexts ["r", "a.jsx"]

def candidate : Candidate := ⟨Bytes.ofString "r/a.jsx", .jsx⟩

/-- The flag behind a token. -/
def line : List Bytes := [Bytes.ofString "r", Bytes.ofString "tok", Arguments.keepFlag]

def arguments : Arguments := { directory := some "r", ignore := ["tok", "--keep-originals"] }

def settings : Settings where
  root := Bytes.ofString "r"
  tokens := ["node_modules", "dist", "build", "out", "tok", "--keep-originals"]

/-- The tree with the target in the place of the file. -/
def renamed : FileTree :=
  (tree.put (Location.ofTexts ["r", "a.tsx"]) (.file [])).erase location

theorem ofList_line : Arguments.ofList line = .ok arguments := by cbv

theorem load_arguments : Settings.load tree [] arguments = .ok settings := by rfl

theorem candidates_eq :
    Discovery.candidates tree [] settings.root settings.sources settings.tokens =
      .ok [candidate] := by cbv

theorem convert_candidate : Conversion.convert [] false tree candidate =
    (renamed, .converted ⟨candidate.path, Bytes.ofString "r/a.tsx"⟩) := by cbv

theorem run_line : (run tree [] line none).tree = renamed ∧ (run tree [] line none).status = 0 := by
  obtain ⟨left, reported⟩ := Conversion.run_of_candidates candidates_eq
  have batch : (Conversion.convertAll [] settings.keepOriginals tree [candidate]).tree = renamed := by
    rw [Conversion.convertAll, show settings.keepOriginals = false from rfl, convert_candidate]
    rfl
  rw [batch] at left
  simp only [run, ofList_line, load_arguments, convert, reported, left]
  exact ⟨rfl, rfl⟩

end Flagged

/-- The flag in front of a token keeps the file. -/
theorem grows_of_keepFlag_in_front :
    Flagged.tree.Grows (run Flagged.tree []
      [Bytes.ofString "r", Arguments.keepFlag, Bytes.ofString "tok"] none).tree := by
  have bare : ∀ earlier, Arguments.ofList [Bytes.ofString "r"] = .ok earlier →
      earlier.ignore = [] := by
    have read : Arguments.ofList [Bytes.ofString "r"] = .ok { directory := some "r" } := by cbv
    intro earlier ends
    rw [read] at ends
    rw [← Except.ok.inj ends]
  have kept : ∀ asked, Flagged.tree.Grows (run Flagged.tree []
      ([Bytes.ofString "r"] ++ Arguments.keepFlag :: [Bytes.ofString "tok"]) asked).tree :=
    (grows_of_keepFlag (by decide) bare).1
  exact kept none

/-- **Behind a token** the flag is a token, and the file is removed. -/
theorem removed_behind_token :
    Arguments.keepFlag ∈ Flagged.line ∧ [0x2D, 0x2D] ∉ Flagged.line ∧
      (Flagged.tree.get? Flagged.location).isSome ∧
      (run Flagged.tree [] Flagged.line none).status = 0 ∧
      (run Flagged.tree [] Flagged.line none).tree.get? Flagged.location = none := by
  obtain ⟨left, status⟩ := Flagged.run_line
  have stored : (Flagged.tree.put (Location.ofTexts ["r", "a.tsx"]) (.file [])).get?
      Flagged.location = some (.file []) := by cbv
  refine ⟨by decide, by decide, by cbv, status, ?_⟩
  rw [left, Flagged.renamed, FileTree.get?_erase _ (by rw [stored]; simp), if_pos rfl]

end Program

end Retarget
