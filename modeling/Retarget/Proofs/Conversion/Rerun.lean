/-
**Running a second time.**

A run leaves nothing for a further run to do. In a tree without links no target has the name of a
source, so a search of the tree behind a run selects those files of the first search that have not
been taken away. Where originals are removed, these are the files that could not be converted, and
they fail as before; a target is written again only if its file cannot be removed. Where originals
are kept and the files are converted one after another, all are selected and written again, to the
same targets and in the same order.

* `Schedule.Settled.mem_candidates_iff`: what a search of the tree behind a run selects;
* `Conversion.Stays` and `Conversion.failures_perm`: the conversions that fail are those whose files
  stay;
* `Conversion.ends_of_stays`: a run whose files all stay;
* `Conversion.rerun_removing` and `Conversion.rerun_keeping`: the two kinds of run;
* `Conversion.rerun_of_isPlain`: what a second run reports and leaves.
-/

import Retarget.Proofs.Conversion.Preservation
import Retarget.Proofs.Conversion.Sequence
import Retarget.Proofs.Conversion.Verdict
import Retarget.Proofs.Discovery.Renewal
import Retarget.Proofs.FileTree.Plain

namespace Retarget

open FileTree (SameFrame)
open Conversion (Apart Discards fate verdict)

/-! ### What is selected behind a run -/

namespace Schedule.Settled

variable [Host] {ground tree : FileTree} {cwd home : Location} {keep : Bool} {root : Path}
  {wanted : List Script.Source} {tokens : List String} {candidates again : List Candidate}
  {place : Candidate → Location} {lead : Location → Path} {candidate : Candidate}
  {names : List Name} {content : Bytes}

/-- A file that is selected behind a run stood there before it. -/
theorem selected (settled : Settled ground cwd keep candidates place tree)
    (apart : Apart ground cwd candidates place lead)
    (located : Discovery.locate tree cwd root = .ok home)
    (selected : Discovery.Selected tree home root wanted tokens candidate names content) :
    Discovery.Selected ground home root wanted tokens candidate names content := by
  obtain ⟨site, here, -⟩ := exists_site_of_selected located selected
  have same : tree.get? (names.reverse ++ home) = ground.get? (names.reverse ++ home) := by
    refine settled.untouched _ ?_ ?_
    · rintro other listed discards file target moved gone
      have stands := selected.stands
      rw [← gone, settled.left other listed discards file target moved] at stands
      cases stands
    · intro other listed file moved
      obtain ⟨beside, name, -, -, landed, bytes, -⟩ := apart.landing listed moved
      rw [← here, Site.location] at landed
      have named := congrArg Name.bytes (List.cons.inj landed).1
      rw [bytes, site.name_bytes] at named
      exact Script.Target.append_suffix_ne _ _ _ _ named.symm
  exact { selected with stands := same ▸ selected.stands }

/-- **What a search of the tree behind a run selects**: the files of the first search that their
conversions have not taken away. -/
theorem mem_candidates_iff (settled : Settled ground cwd keep candidates place tree)
    (apart : Apart ground cwd candidates place lead)
    (found : Discovery.candidates ground cwd root wanted tokens = .ok candidates)
    (located : Discovery.locate ground cwd root = .ok home)
    (placed : ∀ candidate names content,
      Discovery.Selected ground home root wanted tokens candidate names content →
        place candidate = names.reverse ++ home)
    (found' : Discovery.candidates tree cwd root wanted tokens = .ok again) :
    candidate ∈ again ↔ candidate ∈ candidates ∧ (Discards ground cwd keep candidate →
      ∀ file target, fate ground cwd candidate ≠ .moved file target) := by
  have located' := Discovery.locate_congr settled.frame located
  rw [Discovery.mem_candidates found' located']
  constructor
  · rintro ⟨streamless, names, content, chosen'⟩
    have chosen := settled.selected apart located' chosen'
    have listed := (Discovery.mem_candidates found located).mpr ⟨streamless, names, content, chosen⟩
    refine ⟨listed, fun discards file target moved => ?_⟩
    have gone := settled.left candidate listed discards file target moved
    rw [placed candidate names content chosen, chosen'.stands] at gone
    cases gone
  · rintro ⟨listed, stays⟩
    obtain ⟨streamless, names, content, chosen⟩ := (Discovery.mem_candidates found located).mp listed
    have kept := settled.kept apart listed stays
    rw [placed candidate names content chosen] at kept
    exact ⟨streamless, names, content, { chosen with stands := kept.trans chosen.stands }⟩

/-- A run that moves no file leaves the tree as it is. -/
theorem same_of_stays (settled : Settled ground cwd keep candidates place tree)
    (stays : ∀ candidate ∈ candidates, ∀ file target,
      fate ground cwd candidate ≠ .moved file target) : tree.Same ground := by
  refine fun location => settled.untouched location ?_ ?_
  · intro candidate listed _ file target moved
    exact absurd moved (stays candidate listed file target)
  · exact fun candidate listed file => stays candidate listed file location

end Schedule.Settled

namespace Conversion

/-! ### Conversions that fail -/

section Failing

variable [Host] {tree : FileTree} {cwd : Location} {candidates again : List Candidate}
  {candidate : Candidate} {file : Unconverted}

/-- How a conversion that removes its original fails, if it does, as the tree before the run
tells. -/
def failure? (tree : FileTree) (cwd : Location) (candidate : Candidate) : Option Unconverted :=
  (verdict tree cwd false candidate).unconverted?

/-- Whether a conversion that removes its original leaves the file in its place. -/
def Stays (tree : FileTree) (cwd : Location) (candidate : Candidate) : Prop :=
  Discards tree cwd false candidate → ∀ file target, fate tree cwd candidate ≠ .moved file target

theorem isSome_failure?_iff : (failure? tree cwd candidate).isSome = true ↔
    Stays tree cwd candidate := by
  rw [Stays]
  cases comes : fate tree cwd candidate with
  | unread error | unwritten error => simp [failure?, verdict, comes, failed, Outcome.unconverted?]
  | moved file target =>
    cases held : held? tree cwd candidate with
    | none =>
      simp [failure?, verdict_of_moved comes (.inr held), Outcome.unconverted?, Discards, held]
    | some error =>
      simp [failure?, verdict_of_held comes held, failed, Outcome.unconverted?, Discards, held]

theorem path_of_failure? (fails : failure? tree cwd candidate = some file) :
    file.path = candidate.path := by
  cases ends : verdict tree cwd false candidate with
  | converted converted => simp [failure?, ends, Outcome.unconverted?] at fails
  | unconverted other =>
    simp only [failure?, ends, Outcome.unconverted?, Option.some.injEq] at fails
    rw [← fails]
    exact (stays_of_verdict ends).1.symm

theorem unconverted_eq (tree : FileTree) (cwd : Location) (candidates : List Candidate) :
    (Report.ofOutcomes (candidates.map (verdict tree cwd false))).unconverted =
      candidates.filterMap (failure? tree cwd) := by
  rw [Report.ofOutcomes_eq]
  exact List.filterMap_map

/-- **The conversions that fail** are those whose files stay. -/
theorem failures_perm (once : candidates.Nodup) (once' : again.Nodup)
    (alike : ∀ candidate,
      candidate ∈ again ↔ candidate ∈ candidates ∧ Stays tree cwd candidate) :
    (candidates.filterMap (failure? tree cwd)).Perm (again.filterMap (failure? tree cwd)) := by
  have stays : (candidates.filter fun candidate => (failure? tree cwd candidate).isSome).Perm
      again := by
    refine (List.perm_ext_iff_of_nodup (once.filter _) once').mpr fun candidate => ?_
    rw [List.mem_filter, isSome_failure?_iff, alike]
  have whole : candidates.filterMap (failure? tree cwd) =
      (candidates.filter fun candidate => (failure? tree cwd candidate).isSome).filterMap
        (failure? tree cwd) := by
    rw [List.filterMap_filter]
    refine List.filterMap_congr fun candidate _ => ?_
    cases failure? tree cwd candidate <;> rfl
  rw [whole]
  exact stays.filterMap _

/-- Conversions that fail name their files. -/
theorem paths_of_failures (fails : ∀ candidate ∈ again, Stays tree cwd candidate) :
    (again.filterMap (failure? tree cwd)).map (·.path) = again.map (·.path) := by
  rw [List.map_filterMap, ← List.filterMap_eq_map]
  refine List.filterMap_congr fun candidate listed => ?_
  obtain ⟨file, failed⟩ := Option.isSome_iff_exists.mp (isSome_failure?_iff.mpr (fails _ listed))
  rw [failed, Option.map_some, path_of_failure? failed]
  rfl

/-- A run that takes no file away reports none as converted. -/
theorem converted_eq_nil {outcomes : List Outcome}
    (ends : outcomes.Perm (candidates.map (verdict tree cwd false)))
    (stays : ∀ candidate ∈ candidates, Stays tree cwd candidate) :
    (Report.ofOutcomes outcomes).converted = [] := by
  refine List.eq_nil_iff_forall_not_mem.mpr fun file reported => ?_
  have recorded := ends.mem_iff.mp (Report.mem_converted.mp reported)
  obtain ⟨candidate, listed, ended⟩ := List.mem_map.mp recorded
  obtain ⟨loaded, target, moved, -, free⟩ := moved_of_verdict ended
  exact stays candidate listed ⟨rfl, by simpa using free⟩ loaded target moved

end Failing

/-! ### A second run -/

section Again

variable [Host] {tree after : FileTree} {cwd : Location} {settings : Settings} {report : Report}

/-- **A run whose files all stay** converts none, reports how each of them fails, and leaves the tree
as it is where removing is not refused. -/
theorem ends_of_stays {candidates : List Candidate} (plain : tree.IsPlain)
    (ends : MayEnd tree cwd settings after report) (removes : settings.keepOriginals = false)
    (found : Discovery.candidates tree cwd settings.root settings.sources settings.tokens =
      .ok candidates)
    (stays : ∀ candidate ∈ candidates, Stays tree cwd candidate) :
    report.converted = [] ∧ report.unconverted.Perm (candidates.filterMap (failure? tree cwd)) ∧
      (Host.Removes → after.Same tree) := by
  obtain ⟨_, order, outcomes, found', perm, steps, rfl⟩ := ends
  obtain rfl := Except.ok.inj (found.symm.trans found')
  obtain ⟨home, located⟩ := Discovery.locate_of_candidates found
  obtain ⟨place, lead, apart, -⟩ := exists_apart_of_isPlain plain found located
  obtain ⟨settled, verdicts⟩ := Schedule.settled_of_steps apart perm steps rfl rfl
  rw [removes] at settled verdicts
  refine ⟨converted_eq_nil verdicts stays, ?_, fun grants => settled.same_of_stays ?_⟩
  · rw [← unconverted_eq]
    exact Report.unconverted_perm verdicts
  · intro candidate listed file target moved
    exact stays candidate listed ⟨rfl, held?_of_moved grants moved⟩ file target moved

/-- **A second run that removes originals** selects the files that the first one could not convert,
and fails as the first one did. -/
theorem rerun_removing (plain : tree.IsPlain) (removes : settings.keepOriginals = false)
    (ends : MayEnd tree cwd settings after report) :
    (∃ candidates, Discovery.candidates after cwd settings.root settings.sources settings.tokens =
        .ok candidates ∧ (candidates.map (·.path)).Perm (report.unconverted.map (·.path))) ∧
      ∀ limit, (∃ last again,
          MayEnd after cwd { settings with maxConcurrency := limit } last again) ∧
        ∀ last again, MayEnd after cwd { settings with maxConcurrency := limit } last again →
          again.converted = [] ∧ again.unconverted.Perm report.unconverted ∧
            (Host.Removes → last.Same after) := by
  obtain ⟨candidates, order, outcomes, found, perm, steps, rfl⟩ := ends
  obtain ⟨home, located⟩ := Discovery.locate_of_candidates found
  obtain ⟨place, lead, apart, placed⟩ := exists_apart_of_isPlain plain found located
  obtain ⟨settled, verdicts⟩ := Schedule.settled_of_steps apart perm steps rfl rfl
  obtain ⟨selected, found'⟩ := Discovery.exists_candidates_congr settled.frame found
  rw [removes] at settled verdicts
  have alike : ∀ candidate,
      candidate ∈ selected ↔ candidate ∈ candidates ∧ Stays tree cwd candidate :=
    fun _ => settled.mem_candidates_iff apart found located placed found'
  have stays : ∀ candidate ∈ selected, Stays tree cwd candidate :=
    fun candidate listed => ((alike candidate).mp listed).2
  have failures : (Report.ofOutcomes outcomes).unconverted.Perm
      (selected.filterMap (failure? tree cwd)) := by
    refine (Report.unconverted_perm verdicts).trans ?_
    rw [unconverted_eq]
    exact failures_perm (Discovery.nodup_candidates found) (Discovery.nodup_candidates found') alike
  -- A file that stays is as before, so its conversion fails again as it did.
  have same : ∀ candidate ∈ selected,
      failure? after cwd candidate = failure? tree cwd candidate := by
    intro candidate listed
    obtain ⟨inside, stays⟩ := (alike candidate).mp listed
    rw [failure?, failure?,
      verdict_congr apart inside settled.frame (settled.kept apart inside stays)]
  have stays' : ∀ candidate ∈ selected, Stays after cwd candidate := by
    intro candidate listed
    rw [← isSome_failure?_iff, same candidate listed, isSome_failure?_iff]
    exact stays candidate listed
  refine ⟨⟨selected, found', ?_⟩, fun limit => ⟨?_, fun last again ends => ?_⟩⟩
  · rw [← paths_of_failures stays]
    exact (failures.map _).symm
  · obtain ⟨last, again, ends⟩ : ∃ last again,
        MayEndInOrder after cwd { settings with maxConcurrency := limit } last again :=
      exists_mayEndInOrder found'
    exact ⟨last, again, ends.mayEnd⟩
  · obtain ⟨none, fails, unchanged⟩ :=
      ends_of_stays (plain.congr settled.frame) ends removes found' stays'
    rw [List.filterMap_congr same] at fails
    exact ⟨none, fails.trans failures.symm, unchanged⟩

/-- **A second run that keeps originals**, one file after another as the first one, selects the
same files, reports the same and leaves the same tree. -/
theorem rerun_keeping (plain : tree.IsPlain) (keeps : settings.keepOriginals = true)
    (alone : settings.maxConcurrency = some 1) (ends : MayEndInOrder tree cwd settings after report) :
    Discovery.candidates after cwd settings.root settings.sources settings.tokens =
        Discovery.candidates tree cwd settings.root settings.sources settings.tokens ∧
      (∃ last again, MayEndInOrder after cwd settings last again) ∧
        ∀ last again, MayEndInOrder after cwd settings last again →
          again = report ∧ last.Same after := by
  obtain ⟨candidates, outcomes, found, steps, rfl⟩ := ends
  obtain ⟨home, located⟩ := Discovery.locate_of_candidates found
  obtain ⟨place, lead, apart, placed⟩ := exists_apart_of_isPlain plain found located
  rw [keeps, alone] at steps
  obtain ⟨settled, -⟩ := Schedule.settled_of_steps apart (.refl _) steps rfl rfl
  obtain ⟨selected, found'⟩ := Discovery.exists_candidates_congr settled.frame found
  have alike : ∀ candidate, candidate ∈ candidates ↔ candidate ∈ selected := by
    intro candidate
    rw [settled.mem_candidates_iff apart found located placed found']
    simp [Discards]
  obtain rfl := Discovery.candidates_eq_of_mem_iff found found' alike
  refine ⟨found'.trans found.symm, exists_mayEndInOrder found', ?_⟩
  rintro last again ⟨_, outcomes', found'', steps', rfl⟩
  obtain rfl := Except.ok.inj (found'.symm.trans found'')
  rw [keeps, alone] at steps'
  obtain ⟨left, ended⟩ := Schedule.eq_convertAll_of_steps steps rfl rfl
  obtain ⟨left', ended'⟩ := Schedule.eq_convertAll_of_steps steps' rfl rfl
  have kept : ∀ candidate ∈ candidates,
      after.get? (place candidate) = tree.get? (place candidate) :=
    fun candidate listed => settled.kept apart listed (by simp [Discards])
  obtain ⟨verdicts, view⟩ := convertAll_keeping apart (fun _ => id) (.refl tree) fun _ _ => rfl
  obtain ⟨verdicts', view'⟩ := convertAll_keeping apart (fun _ => id) settled.frame kept
  dsimp only at left ended left' ended'
  refine ⟨by rw [ended', verdicts', ended, verdicts], fun location => ?_⟩
  -- The last conversion of each target writes again what it wrote before.
  calc last.get? location
      = (lastAt? tree cwd location candidates).or (after.get? location) := by rw [left', view']
    _ = (lastAt? tree cwd location candidates).or
          ((lastAt? tree cwd location candidates).or (tree.get? location)) := by rw [left, view]
    _ = after.get? location := by rw [← Option.or_assoc, Option.or_self, ← view, ← left]

/-- **Running twice changes nothing more** in a tree without links. Where originals are removed, the
second run selects the files that the first one reports as not converted, under any limit, in any
order and with any mix of steps in both. It comes to an end, converts none, reports the same
failures and leaves the tree as it is; only a file that may not be removed is written again. Where
originals are kept and the files are converted one after another in both runs, the second one
selects the same files, comes to an end, reports the same and leaves the tree as it is. -/
theorem rerun_of_isPlain (plain : tree.IsPlain) (cwd : Location) (settings : Settings) :
    (settings.keepOriginals = false → ∀ after report, MayEnd tree cwd settings after report →
      (∃ candidates,
        Discovery.candidates after cwd settings.root settings.sources settings.tokens =
            .ok candidates ∧
          (candidates.map (·.path)).Perm (report.unconverted.map (·.path))) ∧
        ∀ limit, (∃ last again,
            MayEnd after cwd { settings with maxConcurrency := limit } last again) ∧
          ∀ last again,
            MayEnd after cwd { settings with maxConcurrency := limit } last again →
              again.converted = [] ∧ again.unconverted.Perm report.unconverted ∧
                (Host.Removes → last.Same after)) ∧
      (settings.keepOriginals = true → settings.maxConcurrency = some 1 →
        ∀ after report, MayEndInOrder tree cwd settings after report →
          Discovery.candidates after cwd settings.root settings.sources settings.tokens =
              Discovery.candidates tree cwd settings.root settings.sources settings.tokens ∧
            (∃ last again, MayEndInOrder after cwd settings last again) ∧
              ∀ last again, MayEndInOrder after cwd settings last again →
                again = report ∧ last.Same after) :=
  ⟨fun removes _ _ ends => rerun_removing plain removes ends,
    fun keeps alone _ _ ends => rerun_keeping plain keeps alone ends⟩

end Again

namespace Repeated

/-- A file that is converted, and one that is no text. -/
def tree : FileTree :=
  (FileTree.empty.plant [] (Bytes.ofString "r/a.jsx") (.file [])).plant []
    (Bytes.ofString "r/b.jsx") (.file [0xFF])

def settings (keep : Bool) : Settings where
  root := Bytes.ofString "r"
  keepOriginals := keep
  maxConcurrency := some 1

def element : Candidate := ⟨Bytes.ofString "r/a.jsx", .jsx⟩

def bytes : Candidate := ⟨Bytes.ofString "r/b.jsx", .jsx⟩

def report : Report where
  converted := [⟨element.path, Bytes.ofString "r/a.tsx"⟩]
  unconverted := [⟨bytes.path, .read, .notText⟩]

/-- The tree with the target beside the file. -/
def kept : FileTree := tree.put (Location.ofTexts ["r", "a.tsx"]) (.file [])

/-- The tree with the target in the place of the file. -/
def removed : FileTree := kept.erase (Location.ofTexts ["r", "a.jsx"])

theorem isPlain : tree.IsPlain := by
  have entries : tree.entries = [(Location.ofTexts ["r"], .directory),
      (Location.ofTexts ["r", "a.jsx"], .file []),
      (Location.ofTexts ["r", "b.jsx"], .file [0xFF])] := by cbv
  refine FileTree.isPlain_of_entries fun place inside target => ?_
  simp only [entries, List.mem_cons, List.not_mem_nil, or_false] at inside
  rcases inside with rfl | rfl | rfl <;> simp

theorem candidates_eq : Discovery.candidates tree [] (Bytes.ofString "r") Script.Source.all [] =
    .ok [element, bytes] := by cbv

theorem batch_removing : (convertAll [] false tree [element, bytes]).tree = removed ∧
    Report.ofOutcomes (convertAll [] false tree [element, bytes]).outcomes = report := by
  have first : convert [] false tree element =
      (removed, .converted ⟨element.path, Bytes.ofString "r/a.tsx"⟩) := by cbv
  have second : convert [] false removed bytes =
      (removed, .unconverted ⟨bytes.path, .read, .notText⟩) := by cbv
  simp only [convertAll, first, second]
  exact ⟨trivial, rfl⟩

theorem batch_keeping : (convertAll [] true tree [element, bytes]).tree = kept ∧
    Report.ofOutcomes (convertAll [] true tree [element, bytes]).outcomes = report := by
  have first : convert [] true tree element =
      (kept, .converted ⟨element.path, Bytes.ofString "r/a.tsx"⟩) := by cbv
  have second : convert [] true kept bytes =
      (kept, .unconverted ⟨bytes.path, .read, .notText⟩) := by cbv
  simp only [convertAll, first, second]
  exact ⟨trivial, rfl⟩

theorem run_removing : (run tree [] (settings false)).tree = removed ∧
    (run tree [] (settings false)).result = .ok report := by
  have found : Discovery.candidates tree [] (settings false).root (settings false).sources
      (settings false).tokens = .ok [element, bytes] := candidates_eq
  obtain ⟨left, reported⟩ := run_of_candidates found
  exact ⟨left.trans batch_removing.1, reported.trans (congrArg Except.ok batch_removing.2)⟩

theorem run_keeping : (run tree [] (settings true)).tree = kept ∧
    (run tree [] (settings true)).result = .ok report := by
  have found : Discovery.candidates tree [] (settings true).root (settings true).sources
      (settings true).tokens = .ok [element, bytes] := candidates_eq
  obtain ⟨left, reported⟩ := run_of_candidates found
  exact ⟨left.trans batch_keeping.1, reported.trans (congrArg Except.ok batch_keeping.2)⟩

end Repeated

/-- The file that is no text is left for a second run, which fails on it; a second run that keeps
originals reports both files as before. -/
theorem rerun_of_isPlain_repeated :
    (∃ candidates,
      Discovery.candidates Repeated.removed [] (Bytes.ofString "r") Script.Source.all [] =
          .ok candidates ∧
        (candidates.map (·.path)).Perm [Repeated.bytes.path]) ∧
      Discovery.candidates Repeated.kept [] (Bytes.ofString "r") Script.Source.all [] =
          .ok [Repeated.element, Repeated.bytes] ∧
        (∃ last again, MayEndInOrder Repeated.kept [] (Repeated.settings true) last again) ∧
          ∀ last again, MayEndInOrder Repeated.kept [] (Repeated.settings true) last again →
            again = Repeated.report ∧ last.Same Repeated.kept := by
  have removing := mayEnd_of_run Repeated.run_removing.2
  have keeping := mayEndInOrder_of_run Repeated.run_keeping.2
  rw [Repeated.run_removing.1] at removing
  rw [Repeated.run_keeping.1] at keeping
  obtain ⟨same, again⟩ :=
    (rerun_of_isPlain Repeated.isPlain [] (Repeated.settings true)).2 rfl rfl _ _ keeping
  exact ⟨((rerun_of_isPlain Repeated.isPlain [] (Repeated.settings false)).1 rfl _ _ removing).1,
    same.trans Repeated.candidates_eq, again⟩

end Conversion

end Retarget
