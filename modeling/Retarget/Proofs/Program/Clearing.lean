/-
**A program that ends well.**

What a run tells on the way names each conversion with its end. So a command line that removes
originals, ends with the status 0 and tells of no failed conversion has made a clean run, and what
is left to convert below its root are files that a clean run has to leave. This is not so for a root
named `-`, below which nothing is searched.

* `Conversion.finished_mem_run`: the ends that a run tells are those of its conversions;
* `Program.run_of_status`: a program that ends with the status 0 has made its run;
* `Program.cleared_of_status`: what is left to convert.
-/

import Retarget.Proofs.Conversion.Clearance
import Retarget.Proofs.Program.Keeping

namespace Retarget

/-! ### The ends that a run tells -/

namespace Conversion

variable [Host] {tree : FileTree} {cwd : Location} {keep : Bool} {settings : Settings}
  {candidates : List Candidate} {candidate : Candidate} {outcome other : Outcome}

omit [Host] in
theorem finished_mem_notices :
    Notice.finished outcome ∈ notices tree cwd candidate other ↔ outcome = other := by
  unfold notices
  cases load tree cwd candidate <;> cases other <;> simp

/-- The ends that conversions tell, one after another. -/
theorem finished_mem_convertAll : Notice.finished outcome ∈
    (convertAll cwd keep tree candidates).notices ↔
      outcome ∈ (convertAll cwd keep tree candidates).outcomes := by
  induction candidates generalizing tree with
  | nil => simp [convertAll]
  | cons candidate rest ih =>
    simp only [convertAll, List.mem_append, List.mem_cons, finished_mem_notices, ih]

/-- **The ends that a run tells** are those of its conversions. -/
theorem finished_mem_run
    (found : Discovery.candidates tree cwd settings.root settings.sources settings.tokens =
      .ok candidates) :
    Notice.finished outcome ∈ (run tree cwd settings).notices ↔
      outcome ∈ (convertAll cwd settings.keepOriginals tree candidates).outcomes := by
  have silent : Notice.finished outcome ∉ opening settings := by
    unfold opening
    split <;> simp
  rw [run, found]
  cases candidates with
  | nil => simp [convertAll, silent]
  | cons candidate rest => simp [closing, silent, finished_mem_convertAll]

end Conversion

namespace Program

section Status

variable [Host] {tree : FileTree} {cwd : Location} {line : List Bytes} {arguments : Arguments}
  {settings : Settings}

/-- **A program that ends with the status 0** has made its run, and tells the ends of its
conversions under every log filter. -/
theorem run_of_status (read : Arguments.ofList line = .ok arguments)
    (load : Settings.load tree cwd arguments = .ok settings) {asked : Option Bytes}
    (status : (run tree cwd line asked).status = 0) :
    ∃ report, (Conversion.run tree cwd settings).result = .ok report ∧
      (run tree cwd line asked).tree = (Conversion.run tree cwd settings).tree ∧
      ∀ outcome, .finished outcome ∈ (run tree cwd line asked).notices ↔
        .finished outcome ∈ (Conversion.run tree cwd settings).notices := by
  simp only [run, read, load] at status ⊢
  cases result : (Conversion.run tree cwd settings).result with
  | error failure => simp [convert, result] at status
  | ok report =>
    have plain : convert tree cwd settings =
        ⟨(Conversion.run tree cwd settings).tree, 0, (Conversion.run tree cwd settings).notices⟩ := by
      cases short : shortfall? settings report with
      | some failure => simp [convert, result, short] at status
      | none => simp [convert, result, short]
    rw [plain]
    exact ⟨report, rfl, rfl, fun outcome => by simp [isPrinted]⟩

/-- **What is left to convert** when a command line that removes originals ends with the status 0
and tells of no failed conversion: files whose names are no text, and files that were written
through a link in the place of a target. The same holds for every order in which the steps of the
run may mix. -/
theorem cleared_of_status (read : Arguments.ofList line = .ok arguments)
    (load : Settings.load tree cwd arguments = .ok settings)
    (removes : settings.keepOriginals = false)
    (streamless : Discovery.isStream settings.root = false) :
    (∀ asked, (run tree cwd line asked).status = 0 →
      (∀ file, .finished (.unconverted file) ∉ (run tree cwd line asked).notices) →
        ∃ report : Report,
          (∀ file, file ∈ report.converted ↔
            .finished (.converted file) ∈ (run tree cwd line asked).notices) ∧
          Conversion.Cleared tree (run tree cwd line asked).tree cwd settings report) ∧
      ∀ after report, Conversion.MayEnd tree cwd settings after report → report.unconverted = [] →
        Conversion.Cleared tree after cwd settings report := by
  have whole : settings.sources = Script.Source.all := by
    obtain ⟨directory, file, -, rfl⟩ := merged_of_load load
    rfl
  have cleared : ∀ after report, Conversion.MayEnd tree cwd settings after report →
      report.unconverted = [] → Conversion.Cleared tree after cwd settings report :=
    fun after report ends clean =>
      Conversion.cleared_of_mayEnd whole removes streamless ends clean
  refine ⟨fun asked status clean => ?_, cleared⟩
  obtain ⟨report, result, left, told⟩ := run_of_status read load status
  have ends := Conversion.mayEnd_of_run result
  obtain ⟨candidates, -, -, found, -⟩ := ends
  have ended : ∀ outcome, .finished outcome ∈ (run tree cwd line asked).notices ↔
      outcome ∈ (Conversion.convertAll cwd settings.keepOriginals tree candidates).outcomes :=
    fun outcome => (told outcome).trans (Conversion.finished_mem_run found)
  have reported := (Conversion.run_of_candidates found).2
  rw [result, Except.ok.injEq] at reported
  refine ⟨report, fun file => ?_, ?_⟩
  · rw [reported, Report.mem_converted, ended]
  · rw [left]
    refine cleared _ report (Conversion.mayEnd_of_run result) ?_
    refine List.eq_nil_iff_forall_not_mem.mpr fun file listed => clean file ?_
    rw [reported] at listed
    exact (ended _).mpr (Report.mem_unconverted.mp listed)

/-- **A lenient program** that finds its files ends with the status 0, and tells the ends of its
conversions. -/
theorem run_of_lenient {candidates : List Candidate} (read : Arguments.ofList line = .ok arguments)
    (load : Settings.load tree cwd arguments = .ok settings) (lenient : settings.strict = false)
    (found : Discovery.candidates tree cwd settings.root settings.sources settings.tokens =
      .ok candidates) (asked : Option Bytes) :
    (run tree cwd line asked).status = 0 ∧
      (run tree cwd line asked).tree =
        (Conversion.convertAll cwd settings.keepOriginals tree candidates).tree ∧
      ∀ outcome, .finished outcome ∈ (run tree cwd line asked).notices ↔
        outcome ∈ (Conversion.convertAll cwd settings.keepOriginals tree candidates).outcomes := by
  obtain ⟨left, reported⟩ := Conversion.run_of_candidates found
  have status : (run tree cwd line asked).status = 0 := by
    simp [run, read, load, convert, reported, shortfall?, lenient]
  obtain ⟨-, -, same, told⟩ := run_of_status read load status
  exact ⟨status, same.trans left,
    fun outcome => (told outcome).trans (Conversion.finished_mem_run found)⟩

end Status

/-! ### Files that are left -/

/-- The one file of a tree has been converted. -/
theorem cleared_of_status_flagged : ∃ report,
    Conversion.Cleared Flagged.tree (run Flagged.tree [] Flagged.line none).tree [] Flagged.settings
      report := by
  obtain ⟨status, -, told⟩ :=
    run_of_lenient Flagged.ofList_line Flagged.load_arguments rfl Flagged.candidates_eq none
  have clean : ∀ file, .finished (.unconverted file) ∉ (run Flagged.tree [] Flagged.line none).notices
      := by
    intro file inside
    have ended := (told _).mp inside
    rw [Conversion.convertAll, show Flagged.settings.keepOriginals = false from rfl,
      Flagged.convert_candidate] at ended
    simp [Conversion.convertAll] at ended
  obtain ⟨report, -, cleared⟩ :=
    (cleared_of_status Flagged.ofList_line Flagged.load_arguments rfl (by decide)).1 none status clean
  exact ⟨report, cleared⟩

/-- Whether a command line that removes originals ends with the status 0, tells of no failed
conversion and leaves a file to convert. -/
def Leaves [Host] (tree : FileTree) (cwd : Location) (line : List Bytes) (outer : List Name)
    (last : Name) : Prop :=
  ∃ arguments settings home, Arguments.ofList line = .ok arguments ∧
    Settings.load tree cwd arguments = .ok settings ∧ settings.keepOriginals = false ∧
    (run tree cwd line none).status = 0 ∧
    (∀ file, .finished (.unconverted file) ∉ (run tree cwd line none).notices) ∧
    Discovery.locate (run tree cwd line none).tree cwd settings.root = .ok home ∧
    Conversion.Eligible (run tree cwd line none).tree home settings.root settings.tokens outer last

theorem leaves_of_lenient [Host] {tree : FileTree} {cwd home : Location} {line : List Bytes}
    {arguments : Arguments} {settings : Settings} {candidates : List Candidate} {outer : List Name}
    {last : Name} (read : Arguments.ofList line = .ok arguments)
    (load : Settings.load tree cwd arguments = .ok settings) (lenient : settings.strict = false)
    (removes : settings.keepOriginals = false)
    (found : Discovery.candidates tree cwd settings.root settings.sources settings.tokens =
      .ok candidates)
    (clean : ∀ file,
      .unconverted file ∉ (Conversion.convertAll cwd false tree candidates).outcomes)
    (located : Discovery.locate (Conversion.convertAll cwd false tree candidates).tree cwd
      settings.root = .ok home)
    (eligible : Conversion.Eligible (Conversion.convertAll cwd false tree candidates).tree home
      settings.root settings.tokens outer last) : Leaves tree cwd line outer last := by
  obtain ⟨status, left, told⟩ := run_of_lenient read load lenient found none
  rw [removes] at left told
  refine ⟨arguments, settings, home, read, load, removes, status, fun file inside => ?_, ?_, ?_⟩
  · exact clean file ((told _).mp inside)
  · rw [left]
    exact located
  · rw [left]
    exact eligible

namespace Left

/-- A file whose target is a link to the name of a source, and a file whose name is no text. -/
def linked : FileTree :=
  ((FileTree.empty.plant [] (Bytes.ofString "r/a.js") (.file [])).plant []
    (Bytes.ofString "r/a.ts") (.link (Bytes.ofString "b.js"))).plant []
      (Bytes.ofString "r/" ++ 0xFF :: Bytes.ofString ".js") (.file [])

/-- A file below a directory with the name of a stream. -/
def streamed : FileTree := FileTree.empty.plant [] (Bytes.ofString "-/a.js") (.file [])

def settings (root : String) : Settings where
  root := Bytes.ofString root
  tokens := Ignore.defaultTokens

def script : Candidate := ⟨Bytes.ofString "r/a.js", .js⟩

def written : Name := ⟨Bytes.ofString "b.js", by decide⟩

def unspelled : Name := ⟨0xFF :: Bytes.ofString ".js", by decide⟩

def passed : Name := ⟨Bytes.ofString "a.js", by decide⟩

/-- The tree with the file where the link leads. -/
def moved : FileTree :=
  (linked.put (Location.ofTexts ["r", "b.js"]) (.file [])).erase (Location.ofTexts ["r", "a.js"])

theorem convert_script : Conversion.convert [] false linked script =
    (moved, .converted ⟨script.path, Bytes.ofString "r/a.ts"⟩) := by
  have readText : linked.readText [] script.path = .ok ([], []) := by cbv
  have load : Conversion.load linked [] script = .ok ⟨[], .ts⟩ := by
    rw [Conversion.load, readText]
    rfl
  rw [Conversion.convert, load]
  cbv

theorem convertAll_script : (Conversion.convertAll [] false linked [script]).tree = moved ∧
    (Conversion.convertAll [] false linked [script]).outcomes =
      [.converted ⟨script.path, Bytes.ofString "r/a.ts"⟩] := by
  simp only [Conversion.convertAll, convert_script]
  exact ⟨trivial, trivial⟩

theorem leaves_linked {last : Name}
    (eligible : Conversion.Eligible moved (Location.ofTexts ["r"]) (Bytes.ofString "r")
      Ignore.defaultTokens [] last) : Leaves linked [] [Bytes.ofString "r"] [] last := by
  have read : Arguments.ofList [Bytes.ofString "r"] = .ok { directory := some "r" } := by cbv
  have load : Settings.load linked [] { directory := some "r" } = .ok (settings "r") := by rfl
  have found : Discovery.candidates linked [] (settings "r").root (settings "r").sources
      (settings "r").tokens = .ok [script] := by cbv
  have located : Discovery.locate moved [] (settings "r").root =
      .ok (Location.ofTexts ["r"]) := by cbv
  obtain ⟨left, ends⟩ := convertAll_script
  rw [← left] at located eligible
  exact leaves_of_lenient read load rfl rfl found (by simp [ends]) located eligible

theorem leaves_streamed : Leaves streamed [] [Bytes.ofString "-"] [] passed := by
  have read : Arguments.ofList [Bytes.ofString "-"] = .ok { directory := some "-" } := by cbv
  have load : Settings.load streamed [] { directory := some "-" } = .ok (settings "-") := by rfl
  have found : Discovery.candidates streamed [] (settings "-").root (settings "-").sources
      (settings "-").tokens = .ok [] := by cbv
  have located : Discovery.locate streamed [] (settings "-").root =
      .ok (Location.ofTexts ["-"]) := by cbv
  exact leaves_of_lenient read load rfl rfl found (by simp [Conversion.convertAll]) located
    ⟨by decide, ⟨[], by cbv⟩, ⟨.js, by decide⟩, by cbv⟩

end Left

/-- **Files that are left to convert**: one that was written through a link in the place of a
target, one whose name is no text, and one below a root that is named like a stream. -/
theorem leaves_eligible :
    Leaves Left.linked [] [Bytes.ofString "r"] [] Left.written ∧
      Leaves Left.linked [] [Bytes.ofString "r"] [] Left.unspelled ∧
      Leaves Left.streamed [] [Bytes.ofString "-"] [] Left.passed := by
  have written : Conversion.Eligible Left.moved (Location.ofTexts ["r"]) (Bytes.ofString "r")
      Ignore.defaultTokens [] Left.written := ⟨by decide, ⟨[], by cbv⟩, ⟨.js, by decide⟩, by cbv⟩
  have unspelled : Conversion.Eligible Left.moved (Location.ofTexts ["r"]) (Bytes.ofString "r")
      Ignore.defaultTokens [] Left.unspelled := ⟨by decide, ⟨[], by cbv⟩, ⟨.js, by decide⟩, by cbv⟩
  exact ⟨Left.leaves_linked written, Left.leaves_linked unspelled, Left.leaves_streamed⟩

end Program

end Retarget
