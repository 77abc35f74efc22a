/-
**What a clean run clears.**

A run that removes originals and reports no failure has taken away every file that it selected. No
target that it wrote beside a source has the name of a source, so no file to convert is left, except
in two ways. A name that is no text is passed over by the search. And where a link stood in the
place of a target, the file was written where the link leads, whatever its name is there.

* `Conversion.Eligible`: the files to convert, whatever their names spell;
* `Conversion.selected_of_eligible`: those of them that a search selects;
* `Conversion.IsLinkedTarget`: where a target was written through a link;
* `Conversion.cleared_of_mayEnd`: what a clean run leaves.
-/

import Retarget.Proofs.Conversion.Extent
import Retarget.Proofs.Discovery.Renewal

namespace Retarget.Conversion

/-! ### Files to convert -/

/-- Whether a file below a root is one to convert: no name on the way to it starts with a dot, its own
name is longer than the ending of a source and ends so, and no token excludes its path. -/
structure Eligible (tree : FileTree) (home : Location) (root : Path) (tokens : List String)
    (outer : List Name) (last : Name) : Prop where
  visible : ∀ name ∈ outer ++ [last], name.isDotted = false
  stands : ∃ content, tree.get? ((outer ++ [last]).reverse ++ home) = some (.file content)
  ending : ∃ source : Script.Source, source.ends last.bytes = true
  kept : Ignore.excludes tokens
    (Utf8.decodeLossy (Discovery.pathOf root (outer ++ [last]))) = false

section Search

variable {tree : FileTree} {home : Location} {root : Path} {tokens : List String}
  {outer : List Name} {last : Name}

/-- A name that is a text and ends like a source names one. -/
theorem exists_ofPath? (text : (Utf8.decode? last.bytes).isSome = true)
    (ending : ∃ source : Script.Source, source.ends last.bytes = true) :
    ∃ source, Script.Source.ofPath? Script.Source.all (Discovery.pathOf root (outer ++ [last])) =
      some source := by
  obtain ⟨source, ends⟩ := ending
  have named : (Discovery.pathOf root (outer ++ [last])).name? = some last.bytes := by
    rw [Discovery.pathOf_append]
    exact Path.name?_append (Path.isFront_opened _) last.isWord
  have listed : source ∈ Script.Source.all := by cases source <;> decide
  exact ⟨source, Script.Source.ofPath?_eq_some_iff.mpr
    ⟨last.bytes, named, Option.isSome_iff_exists.mp text, listed, ends⟩⟩

/-- **A file to convert** whose name is a text is selected. -/
theorem selected_of_eligible [Host] (eligible : Eligible tree home root tokens outer last)
    (text : (Utf8.decode? last.bytes).isSome = true) :
    ∃ candidate content, Discovery.Selected tree home root Script.Source.all tokens candidate
      (outer ++ [last]) content := by
  obtain ⟨content, stands⟩ := eligible.stands
  obtain ⟨source, ending⟩ : ∃ source, Script.Source.ofPath? Script.Source.all
      (Discovery.pathOf root (outer ++ [last])) = some source := exists_ofPath? text eligible.ending
  exact ⟨⟨_, source⟩, content, by simp,
    fun name inside => Host.hides_eq_false (eligible.visible name inside), stands, rfl, ending,
    eligible.kept⟩

end Search

/-! ### What is left -/

section Left

variable [Host] {tree after : FileTree} {cwd home location : Location} {candidates : List Candidate}
  {place : Candidate → Location} {lead : Location → Path} {recorded : List (Candidate × Outcome)}
  {root : Path} {wanted : List Script.Source} {tokens : List String} {candidate : Candidate}
  {names : List Name} {content : Bytes} {task : Task}

/-- Whether a link stood in the place of the target of a converted entry and leads to a location. -/
def IsLinkedTarget (tree : FileTree) (cwd : Location) (report : Report) (location : Location) :
    Prop :=
  ∃ file ∈ report.converted,
    (∃ there link, tree.resolve cwd .remove file.destination = .ok (.link there link)) ∧
      tree.writeTarget cwd file.destination = .ok location

/-- **What was written in the place of a source** by a conversion that took its file away was written
through a link. -/
theorem isLinkedTarget_of_wrote
    (footprint : Footprint tree cwd false candidates place (recorded.map Schedule.endedTask) after)
    (placed : Placed tree cwd candidates place lead) (inside : task ∈ recorded.map Schedule.endedTask)
    (took : Took false task) (wrote : Wrote tree cwd task location)
    (site : Site after cwd candidate) (here : site.location = location) :
    IsLinkedTarget tree cwd (Report.ofOutcomes (recorded.map (·.2))) location := by
  obtain ⟨origin, -, -⟩ := placed.sited _ (footprint.mem_candidates inside)
  have credible := footprint.credible task inside
  obtain ⟨⟨writer, outcome⟩, member, rfl⟩ := List.mem_map.mp inside
  obtain ⟨-, file, ended⟩ := took
  obtain rfl : outcome = .converted file := Progress.ended.inj ended
  obtain ⟨-, -, ⟨target, destination⟩, -⟩ := credible
  refine ⟨file, mem_converted_of_mem member, ?_, wrote⟩
  -- A target that is no link stands beside its source and does not end like one.
  by_contra plain
  change tree.writeTarget cwd file.destination = .ok location at wrote
  rw [destination] at wrote plain
  obtain ⟨-, -, name, beside, bytes⟩ := origin.beside_of_writeTarget
    (fun there link resolved => plain ⟨there, link, resolved⟩) wrote
  rw [← here, Site.location] at beside
  have named := congrArg Name.bytes (List.cons.inj beside).1
  rw [bytes, site.name_bytes] at named
  exact Script.Target.append_suffix_ne _ _ _ _ named.symm

/-- **A selected file that is left** behind a run without failures was written through a link. -/
theorem isLinkedTarget_of_selected
    (found : Discovery.candidates tree cwd root wanted tokens = .ok candidates)
    (located : Discovery.locate tree cwd root = .ok home)
    (streamless : Discovery.isStream root = false)
    (placed : Placed tree cwd candidates place lead)
    (placedAt : ∀ candidate names content,
      Discovery.Selected tree home root wanted tokens candidate names content →
        place candidate = names.reverse ++ home)
    (footprint : Footprint tree cwd false candidates place (recorded.map Schedule.endedTask) after)
    (clean : ∀ ended ∈ recorded, ∃ file, ended.2 = .converted file)
    (selected : Discovery.Selected after home root wanted tokens candidate names content) :
    IsLinkedTarget tree cwd (Report.ofOutcomes (recorded.map (·.2))) (names.reverse ++ home) := by
  obtain ⟨site, here, -⟩ :=
    exists_site_of_selected (Discovery.locate_congr footprint.frame located) selected
  have took : ∀ task ∈ recorded.map Schedule.endedTask, Took false task := by
    intro task inside
    obtain ⟨ended, member, rfl⟩ := List.mem_map.mp inside
    obtain ⟨file, converted⟩ := clean ended member
    exact ⟨rfl, file, congrArg Progress.ended converted⟩
  -- A file that a conversion has taken away is there again only where one was written.
  have again : ∀ task ∈ recorded.map Schedule.endedTask,
      place task.candidate = names.reverse ++ home →
        ∃ writer ∈ recorded.map Schedule.endedTask, Wrote tree cwd writer (names.reverse ++ home) := by
    intro task inside same
    rcases footprint.taken task inside (took task inside) with gone | written
    · rw [same, selected.stands] at gone
      cases gone
    · rwa [same] at written
  obtain ⟨writer, inside, wrote⟩ : ∃ writer ∈ recorded.map Schedule.endedTask,
      Wrote tree cwd writer (names.reverse ++ home) := by
    rcases footprint.changed (names.reverse ++ home) with same | written | ⟨task, inside, -, same⟩
    · have before : Discovery.Selected tree home root wanted tokens candidate names content :=
        { selected with stands := same ▸ selected.stands }
      have listed : candidate ∈ candidates :=
        (Discovery.mem_candidates found located).mpr ⟨streamless, names, content, before⟩
      obtain ⟨task, inside, rfl⟩ := List.mem_map.mp (footprint.listed.mem_iff.mpr listed)
      exact again task inside (placedAt _ names content before)
    · exact written
    · exact again task inside same
  exact isLinkedTarget_of_wrote footprint placed inside (took writer inside) wrote site here

end Left

/-- Whether no file to convert is left but those that a clean run has to leave: the name is no text,
or the file was written through a link in the place of a target. -/
def Cleared [Host] (tree after : FileTree) (cwd : Location) (settings : Settings)
    (report : Report) : Prop :=
  ∀ home outer last, Discovery.locate after cwd settings.root = .ok home →
    Eligible after home settings.root settings.tokens outer last →
      Utf8.decode? last.bytes = none ∨
        IsLinkedTarget tree cwd report ((outer ++ [last]).reverse ++ home)

/-- **What a clean run leaves**, whatever order its steps mix in. -/
theorem cleared_of_mayEnd [Host] {tree after : FileTree} {cwd : Location} {settings : Settings}
    {report : Report} (whole : settings.sources = Script.Source.all)
    (removes : settings.keepOriginals = false)
    (streamless : Discovery.isStream settings.root = false)
    (ends : MayEnd tree cwd settings after report) (clean : report.unconverted = []) :
    Cleared tree after cwd settings report := by
  obtain ⟨candidates, order, outcomes, found, perm, steps, rfl⟩ := ends
  obtain ⟨home, located⟩ := Discovery.locate_of_candidates found
  obtain ⟨place, lead, placed, placedAt⟩ := exists_placed found located
  rw [removes] at steps
  rw [whole] at found placedAt
  obtain ⟨recorded, rfl, footprint⟩ := Schedule.footprint_of_steps placed perm steps rfl rfl
  have converted : ∀ ended ∈ recorded, ∃ file, ended.2 = .converted file := by
    rintro ⟨candidate, outcome⟩ member
    cases outcome with
    | converted file => exact ⟨file, rfl⟩
    | unconverted file =>
      have reported := Report.mem_unconverted.mpr (List.mem_map_of_mem (f := (·.2)) member)
      rw [clean] at reported
      cases reported
  intro home' outer last located' eligible
  obtain rfl := Except.ok.inj
    ((Discovery.locate_congr footprint.frame located).symm.trans located')
  cases text : Utf8.decode? last.bytes with
  | none => exact .inl rfl
  | some characters =>
    obtain ⟨candidate, content, selected⟩ := selected_of_eligible eligible (by simp [text])
    exact .inr (isLinkedTarget_of_selected found located streamless placed placedAt footprint
      converted selected)

end Retarget.Conversion
