/-
**What a run preserves.**

A run may start its conversions in any order and mix their steps. In a tree without links it loses
no file that it could not convert, and each target that it reports holds the content of its source.
The one exception are two files with one target: there the target holds the content of one of them.

* `Conversion.MayEnd` and `Conversion.MayEndInOrder`: the trees and reports that a run may end with,
  in any order and in the order of the paths;
* `Conversion.mayEnd_of_run` and `Conversion.mayLeave_of_run`: a run ends with one of them;
* `Conversion.preserved_of_mayEnd`: where the content of each candidate is then.
-/

import Mathlib
import Retarget.Conversion.Run
import Retarget.FileTree.Build
import Retarget.Proofs.Conversion.Interleaving

namespace Retarget.Conversion

section Runs

variable [Host] {tree after : FileTree} {cwd home : Location} {settings : Settings}
  {report : Report} {candidates : List Candidate} {candidate : Candidate}

/-- Whether a run may end with a tree and a report: its conversions start in some order, their steps
mix within the limit, and all are recorded. -/
def MayEnd (tree : FileTree) (cwd : Location) (settings : Settings) (after : FileTree)
    (report : Report) : Prop :=
  ∃ candidates order outcomes,
    Discovery.candidates tree cwd settings.root settings.sources settings.tokens =
        .ok candidates ∧
      order.Perm candidates ∧
      Schedule.Steps cwd settings.keepOriginals settings.maxConcurrency
        (Schedule.initial tree order) ⟨after, [], [], outcomes⟩ ∧
      report = Report.ofOutcomes outcomes

/-- A run converts the files that it finds one by one. -/
theorem run_of_candidates
    (found : Discovery.candidates tree cwd settings.root settings.sources settings.tokens =
      .ok candidates) :
    (run tree cwd settings).tree = (convertAll cwd settings.keepOriginals tree candidates).tree ∧
      (run tree cwd settings).result =
        .ok (Report.ofOutcomes (convertAll cwd settings.keepOriginals tree candidates).outcomes) := by
  rw [run, found]
  cases candidates <;> exact ⟨rfl, rfl⟩

/-- Whether a run may end with a tree and a report when its conversions start in the order of their
paths. -/
def MayEndInOrder (tree : FileTree) (cwd : Location) (settings : Settings) (after : FileTree)
    (report : Report) : Prop :=
  ∃ candidates outcomes,
    Discovery.candidates tree cwd settings.root settings.sources settings.tokens =
        .ok candidates ∧
      Schedule.Steps cwd settings.keepOriginals settings.maxConcurrency
        (Schedule.initial tree candidates) ⟨after, [], [], outcomes⟩ ∧
      report = Report.ofOutcomes outcomes

theorem MayEndInOrder.mayEnd (ends : MayEndInOrder tree cwd settings after report) :
    MayEnd tree cwd settings after report :=
  let ⟨candidates, outcomes, found, steps, reported⟩ := ends
  ⟨candidates, candidates, outcomes, found, .refl _, steps, reported⟩

theorem mayEndInOrder_of_run (succeeds : (run tree cwd settings).result = .ok report) :
    MayEndInOrder tree cwd settings (run tree cwd settings).tree report := by
  cases found : Discovery.candidates tree cwd settings.root settings.sources settings.tokens with
  | error failure =>
    rw [run, found] at succeeds
    cases succeeds
  | ok candidates =>
    obtain ⟨left, reported⟩ := run_of_candidates found
    rw [reported, Except.ok.injEq] at succeeds
    rw [left]
    exact ⟨candidates, _, found, Schedule.steps_convertAll tree candidates [], succeeds.symm⟩

/-- **A run that succeeds** is one of those that a run may be. -/
theorem mayEnd_of_run (succeeds : (run tree cwd settings).result = .ok report) :
    MayEnd tree cwd settings (run tree cwd settings).tree report :=
  (mayEndInOrder_of_run succeeds).mayEnd

/-- **A run that finds its files** comes to an end. -/
theorem exists_mayEndInOrder
    (found : Discovery.candidates tree cwd settings.root settings.sources settings.tokens =
      .ok candidates) : ∃ after report, MayEndInOrder tree cwd settings after report :=
  ⟨_, _, mayEndInOrder_of_run (run_of_candidates found).2⟩

/-- Whether a run may leave a tree, whether it fails or ends with a report. -/
def MayLeave (tree : FileTree) (cwd : Location) (settings : Settings) (after : FileTree) : Prop :=
  match Discovery.candidates tree cwd settings.root settings.sources settings.tokens with
  | .error _ => after = tree
  | .ok _ => ∃ report, MayEnd tree cwd settings after report

/-- **A run** leaves one of the trees that it may leave. -/
theorem mayLeave_of_run (tree : FileTree) (cwd : Location) (settings : Settings) :
    MayLeave tree cwd settings (run tree cwd settings).tree := by
  unfold MayLeave
  cases found : Discovery.candidates tree cwd settings.root settings.sources settings.tokens with
  | error failure => rw [run, found]
  | ok candidates => exact ⟨_, mayEnd_of_run (run_of_candidates found).2⟩

omit [Host] in
/-- In a tree without links no target is written to one. -/
theorem unlinked_of_isPlain (site : Site tree cwd candidate) (plain : tree.IsPlain) :
    Unlinked tree cwd candidate := by
  intro file load location target resolved
  rw [site.destinationOf_eq, site.reaches.resolve_eq (site.isWord_targetWord _)
    (site.zero_notMem_targetWord _)] at resolved
  split at resolved
  · cases resolved
  · unfold Step.ofWord at resolved
    split at resolved
    · next name named =>
      rw [FileTree.walk_name (.inl rfl), FileTree.placeAt] at resolved
      split at resolved
      · cases resolved
      · cases resolved
      · cases resolved
      · next link => exact plain _ _ link
    · simp [FileTree.walk] at resolved

/-- The candidates of a run in a tree without links stand apart. -/
theorem exists_apart_of_isPlain {root : Path} {wanted : List Script.Source} {tokens : List String}
    (plain : tree.IsPlain)
    (found : Discovery.candidates tree cwd root wanted tokens = .ok candidates)
    (located : Discovery.locate tree cwd root = .ok home) :
    ∃ place lead, Apart tree cwd candidates place lead ∧ ∀ candidate names content,
      Discovery.Selected tree home root wanted tokens candidate names content →
        place candidate = names.reverse ++ home := by
  refine exists_apart found located fun candidate listed => ?_
  obtain ⟨-, names, content, chosen⟩ := (Discovery.mem_candidates found located).mp listed
  obtain ⟨site, -⟩ := exists_site_of_selected located chosen
  exact unlinked_of_isPlain site plain

/-! ### Where the content is -/

/-- Whether a destination holds the content of a converted file, or of one with the same target. -/
def Delivered (tree after : FileTree) (cwd : Location) (candidates : List Candidate)
    (report : Report) (candidate : Candidate) (destination : Path) : Prop :=
  ∃ survivor ∈ candidates, ∃ content,
    (⟨survivor.path, destination⟩ : Converted) ∈ report.converted ∧
      tree.read cwd survivor.path = .ok content ∧ after.read cwd destination = .ok content ∧
      (candidate = survivor ∨ Clashes tree cwd candidate survivor ∨
        Clashes tree cwd survivor candidate)

/-- Whether a file stands where it stood, with the content that it had. -/
def Untouched (tree after : FileTree) (cwd : Location) (settings : Settings)
    (candidate : Candidate) : Prop :=
  ∃ home names content, Discovery.locate tree cwd settings.root = .ok home ∧
    Discovery.Selected tree home settings.root settings.sources settings.tokens candidate names
        content ∧
      after.get? (names.reverse ++ home) = some (.file content) ∧
      after.read cwd candidate.path = tree.read cwd candidate.path

section Settled

variable {candidates : List Candidate} {place : Candidate → Location} {lead : Location → Path}
  {outcomes : List Outcome} {keep : Bool}

/-- Each candidate is reported. -/
theorem reported_of_mem (ends : outcomes.Perm (candidates.map (verdict tree cwd keep)))
    (listed : candidate ∈ candidates) :
    (∃ destination,
        (⟨candidate.path, destination⟩ : Converted) ∈ (Report.ofOutcomes outcomes).converted) ∨
      ∃ stage error, (⟨candidate.path, stage, error⟩ : Unconverted) ∈
        (Report.ofOutcomes outcomes).unconverted := by
  have recorded : verdict tree cwd keep candidate ∈ outcomes :=
    ends.mem_iff.mpr (List.mem_map_of_mem listed)
  cases ended : verdict tree cwd keep candidate with
  | converted file =>
    obtain ⟨loaded, target, -, rfl, -⟩ := moved_of_verdict ended
    rw [ended] at recorded
    exact .inl ⟨_, Report.mem_converted.mpr recorded⟩
  | unconverted file =>
    obtain ⟨path, stage, error⟩ := file
    obtain ⟨rfl, -⟩ := stays_of_verdict ended
    rw [ended] at recorded
    exact .inr ⟨stage, error, Report.mem_unconverted.mpr recorded⟩

/-- **A destination that is reported** holds the content of a file that went there. -/
theorem delivered_of_reported (apart : Apart tree cwd candidates place lead)
    (settled : Schedule.Settled tree cwd keep candidates place after)
    (ends : outcomes.Perm (candidates.map (verdict tree cwd keep))) {file : Converted}
    (reported : file ∈ (Report.ofOutcomes outcomes).converted) :
    ∃ candidate ∈ candidates, candidate.path = file.source ∧
      Delivered tree after cwd candidates (Report.ofOutcomes outcomes) candidate
        file.destination := by
  have recorded := ends.mem_iff.mp (Report.mem_converted.mp reported)
  obtain ⟨candidate, listed, ended⟩ := List.mem_map.mp recorded
  obtain ⟨loaded, target, moved, rfl, free⟩ := moved_of_verdict ended
  obtain ⟨survivor, inside, kept, moved', delivered⟩ := settled.delivered apart listed moved
  obtain ⟨read, -⟩ := fate_eq_moved_iff.mp moved'
  obtain ⟨site, -, -⟩ := apart.sited survivor inside
  obtain ⟨short, content_eq, -⟩ := site.loaded read
  have content : tree.read cwd survivor.path = .ok kept.content := by
    rw [site.read_eq (.refl tree), if_neg (by omega), content_eq]
    exact FileTree.contentAt_of_file site.stands
  have column : .converted ⟨survivor.path, destinationOf candidate loaded⟩ ∈ outcomes := by
    rw [apart.held?_congr listed inside moved moved'] at free
    rw [apart.destinationOf_eq listed inside moved moved', ← verdict_of_moved moved' free]
    exact ends.mem_iff.mpr (List.mem_map_of_mem inside)
  refine ⟨candidate, listed, rfl, ?_⟩
  dsimp only
  exact ⟨survivor, inside, kept.content, Report.mem_converted.mpr column, content, delivered,
    apart.eq_or_clashes listed inside moved moved'⟩

end Settled

/-- **What a run preserves** in a tree without links. Each candidate is reported; a file that is
reported as not converted is untouched; and a destination that is reported holds the content of its
source, or of the other file when two files have one target. -/
theorem preserved_of_mayEnd (plain : tree.IsPlain)
    (found : Discovery.candidates tree cwd settings.root settings.sources settings.tokens =
      .ok candidates)
    (ends : MayEnd tree cwd settings after report) :
    (∀ candidate ∈ candidates,
      (∃ destination, (⟨candidate.path, destination⟩ : Converted) ∈ report.converted) ∨
        ∃ stage error, (⟨candidate.path, stage, error⟩ : Unconverted) ∈ report.unconverted) ∧
    (∀ file ∈ report.converted, ∃ candidate ∈ candidates, candidate.path = file.source ∧
      Delivered tree after cwd candidates report candidate file.destination) ∧
    ∀ file ∈ report.unconverted, ∃ candidate ∈ candidates, candidate.path = file.path ∧
      Untouched tree after cwd settings candidate := by
  obtain ⟨_, order, outcomes, found', perm, steps, rfl⟩ := ends
  rw [found, Except.ok.injEq] at found'
  subst found'
  obtain ⟨home, located⟩ := Discovery.locate_of_candidates found
  have selected : ∀ candidate ∈ candidates, ∃ names content, Discovery.Selected tree home
      settings.root settings.sources settings.tokens candidate names content :=
    fun candidate listed => ((Discovery.mem_candidates found located).mp listed).2
  obtain ⟨place, lead, apart, placed⟩ := exists_apart_of_isPlain plain found located
  obtain ⟨settled, ends⟩ := Schedule.settled_of_steps apart perm steps rfl rfl
  refine ⟨fun _ => reported_of_mem ends, fun _ => delivered_of_reported apart settled ends, ?_⟩
  intro file reported
  have recorded := ends.mem_iff.mp (Report.mem_unconverted.mp reported)
  obtain ⟨candidate, listed, ended⟩ := List.mem_map.mp recorded
  obtain ⟨named, stays⟩ := stays_of_verdict ended
  obtain ⟨names, content, chosen⟩ := selected candidate listed
  obtain ⟨site, stands, -⟩ := apart.sited candidate listed
  have kept := settled.kept apart listed fun discards file target moved => by
    cases discards.2.symm.trans (stays file target moved).2.2
  refine ⟨candidate, listed, named, home, names, content, located, chosen, ?_, ?_⟩
  · rw [← placed candidate names content chosen, kept, placed candidate names content chosen]
    exact chosen.stands
  · rw [site.read_eq settled.frame, site.read_eq (.refl tree), FileTree.contentAt, stands, kept]
    rfl

end Runs

/-! ### Two files with one target -/

namespace Twins

/-- A `.js` file with markup beside an empty `.jsx` file of one stem. -/
def tree : FileTree :=
  (FileTree.empty.plant [] (Bytes.ofString "r/a.js") (.file (Bytes.ofString "<>"))).plant []
    (Bytes.ofString "r/a.jsx") (.file [])

def settings : Settings := { root := Bytes.ofString "r" }

def script : Candidate := ⟨Bytes.ofString "r/a.js", .js⟩

def element : Candidate := ⟨Bytes.ofString "r/a.jsx", .jsx⟩

def target : Path := Bytes.ofString "r/a.tsx"

def report : Report := { converted := [⟨script.path, target⟩, ⟨element.path, target⟩] }

/-- The tree behind the first conversion. -/
def once : FileTree :=
  (tree.put (Location.ofTexts ["r", "a.tsx"]) (.file (Bytes.ofString "<>"))).erase
    (Location.ofTexts ["r", "a.js"])

/-- The tree behind both conversions. -/
def twice : FileTree :=
  (once.put (Location.ofTexts ["r", "a.tsx"]) (.file [])).erase (Location.ofTexts ["r", "a.jsx"])

theorem isPlain : tree.IsPlain := by
  have entries : tree.entries = [(Location.ofTexts ["r"], .directory),
      (Location.ofTexts ["r", "a.js"], .file (Bytes.ofString "<>")),
      (Location.ofTexts ["r", "a.jsx"], .file [])] := by cbv
  refine FileTree.isPlain_of_entries fun place inside target => ?_
  simp only [entries, List.mem_cons, List.not_mem_nil, or_false] at inside
  rcases inside with rfl | rfl | rfl <;> simp

theorem candidates_eq :
    Discovery.candidates tree [] settings.root settings.sources settings.tokens =
      .ok [script, element] := by cbv

theorem read_script : tree.read [] script.path = .ok (Bytes.ofString "<>") := by cbv

theorem convertAll_eq : (convertAll [] false tree [script, element]).tree = twice ∧
    Report.ofOutcomes (convertAll [] false tree [script, element]).outcomes = report := by
  have load : load tree [] script = .ok ⟨Bytes.ofString "<>", .tsx⟩ := by
    rw [Conversion.load, FileTree.readText, read_script]
    rfl
  have first : convert [] false tree script = (once, .converted ⟨script.path, target⟩) := by
    rw [convert, load]
    cbv
  have second : convert [] false once element = (twice, .converted ⟨element.path, target⟩) := by cbv
  rw [convertAll, first]
  dsimp only
  rw [convertAll, second]
  exact ⟨rfl, rfl⟩

theorem run_eq : (run tree [] settings).tree = twice ∧
    (run tree [] settings).result = .ok report := by
  obtain ⟨left, reported⟩ := run_of_candidates candidates_eq
  rw [left, reported]
  exact ⟨convertAll_eq.1, congrArg Except.ok convertAll_eq.2⟩

end Twins

/-- The target that is reported for both files holds the content of one of them. -/
theorem preserved_of_mayEnd_twins :
    ∃ candidate ∈ [Twins.script, Twins.element], candidate.path = Twins.script.path ∧
      Delivered Twins.tree Twins.twice [] [Twins.script, Twins.element] Twins.report candidate
        Twins.target := by
  have ends := mayEnd_of_run Twins.run_eq.2
  rw [Twins.run_eq.1] at ends
  exact (preserved_of_mayEnd Twins.isPlain Twins.candidates_eq ends).2.1
    ⟨Twins.script.path, Twins.target⟩ List.mem_cons_self

/-- **A run loses a file** that shares its target with another one, and reports both. -/
theorem content_lost_between_twins :
    Twins.tree.IsPlain ∧ Twins.settings.keepOriginals = false ∧
      (run Twins.tree [] Twins.settings).result = .ok Twins.report ∧
      (⟨Twins.script.path, Twins.target⟩ : Converted) ∈ Twins.report.converted ∧
      Twins.tree.read [] Twins.script.path = .ok (Bytes.ofString "<>") ∧
      (run Twins.tree [] Twins.settings).tree.read [] Twins.target = .ok [] := by
  refine ⟨Twins.isPlain, rfl, Twins.run_eq.2, List.mem_cons_self, Twins.read_script, ?_⟩
  rw [Twins.run_eq.1]
  cbv

end Retarget.Conversion
