/-
**The status of a program.**

The status is 0 or 1. It is 0 for a command line that asks for a text, and for one whose run finds
its files, unless the run is strict and some file could not be converted. A run is strict when its
command line or its settings file says so. This decides on the status alone, and changes neither the
tree nor what is printed on standard output.

* `Conversion.Run.Agrees`: what runs have in common that differ in strictness;
* `Program.mayLeave_iff_exists_mayEnd`: the trees of the endings of a command line;
* `Program.Succeeds`: when the status is 0;
* `Program.status_eq_zero_iff` and `Program.MayEnd.reports`: the status, and what a strict run tells
  that could not convert all its files;
* `Program.status_of_mayEnd`: the law of the status.
-/

import Retarget.Proofs.Program.Ending
import Retarget.Proofs.Program.Keeping

namespace Retarget

open Notice (sent)

/-! ### Runs that differ in strictness -/

namespace Conversion

variable [Host] {tree : FileTree} {cwd : Location} {settings : Settings} {run : Run}

/-- **What two runs have in common** that end the same way, print the same and leave the same
tree. -/
structure Run.Agrees (run run' : Run) : Prop extends Run.Alike run run' where
  tree : run'.tree = run.tree

theorem agrees_failed (strict : Bool) (failure : Failure) :
    Run.Agrees ⟨tree, .error failure, preamble tree cwd settings⟩
      ⟨tree, .error failure, preamble tree cwd { settings with strict := strict }⟩ where
  result := rfl
  sent printed := by rw [sent_preamble printed, sent_preamble printed]
  tree := rfl

theorem agrees_around (strict : Bool) (candidates : List Candidate) (batch : Batch) :
    (around tree cwd settings candidates batch).Agrees
      (around tree cwd { settings with strict := strict } candidates batch) := by
  have opens : opening { settings with strict := strict } = opening settings := rfl
  refine ⟨alike_around opens candidates rfl fun _ => rfl, ?_⟩
  unfold around
  split <;> rfl

/-- **A run that is strict or not** may be made alike in the other way. -/
theorem MayRun.exists_agrees (runs : MayRun tree cwd settings run) (strict : Bool) :
    ∃ run', MayRun tree cwd { settings with strict := strict } run' ∧ run.Agrees run' := by
  cases runs with
  | failed unfound => exact ⟨_, .failed unfound, agrees_failed strict _⟩
  | ended found perm tells => exact ⟨_, .ended found perm tells, agrees_around strict _ _⟩

/-- **Runs that convert their files one by one** agree, be they strict or not. -/
theorem agrees_run (tree : FileTree) (cwd : Location) (settings : Settings) (strict : Bool) :
    (Conversion.run tree cwd settings).Agrees
      (Conversion.run tree cwd { settings with strict := strict }) := by
  cases found : Discovery.candidates tree cwd settings.root settings.sources settings.tokens with
  | error failure =>
    rw [Conversion.run, Conversion.run, found]
    exact agrees_failed strict failure
  | ok candidates =>
    have same : Conversion.run tree cwd { settings with strict := strict } =
        around tree cwd { settings with strict := strict } candidates
          (convertAll cwd settings.keepOriginals tree candidates) := run_eq_around found
    rw [run_eq_around found, same]
    exact agrees_around strict candidates _

end Conversion

/-- Whether settings differ in nothing but strictness. -/
def Settings.AlikeButStrict (settings settings' : Settings) : Prop :=
  settings' = { settings with strict := settings'.strict }

namespace Program

section Status

variable [Host] {tree : FileTree} {cwd : Location} {line : List Bytes} {asked : Option Bytes}
  {arguments : Arguments} {settings : Settings} {run run' : Conversion.Run} {report : Report}
  {ending : Ending} {candidates : List Candidate}

/-- **The trees that a command line may leave** are those of the endings that it may lead to. -/
theorem mayLeave_iff_exists_mayEnd {after : FileTree} (asked : Option Bytes) :
    MayLeave tree cwd line after ↔
      ∃ report ending, MayEnd tree cwd line asked report ending ∧ ending.tree = after := by
  unfold MayLeave
  constructor
  · intro leaves
    split at leaves
    · next stop read => exact ⟨_, _, .stopped read, leaves.symm⟩
    · next arguments read =>
      split at leaves
      · next failure load => exact ⟨_, _, .unloaded read load, leaves.symm⟩
      · next settings load =>
        obtain ⟨run, runs, rfl⟩ := Conversion.mayLeave_iff_exists_mayRun.mp leaves
        exact ⟨_, _, .ran read load runs, (close_agrees settings run).1⟩
  · rintro ⟨report, ending, ends, rfl⟩
    cases ends with
    | stopped read => rw [read]
    | unloaded read load =>
      simp only [read, load]
      rfl
    | @ran arguments settings run read load runs =>
      simp only [read, load]
      exact Conversion.mayLeave_iff_exists_mayRun.mpr
        ⟨run, runs, (close_agrees settings run).1.symm⟩

/-! ### When a program succeeds -/

/-- Whether a command line asks for a text instead of a run. -/
def AsksForText (line : List Bytes) : Prop :=
  Arguments.ofList line = .error .help ∨ Arguments.ofList line = .error .version

/-- **When a program succeeds**: its command line asks for a text, or it leads to settings with
which files can be searched, and the run is not strict or could convert all of them. -/
def Succeeds (tree : FileTree) (cwd : Location) (line : List Bytes) (report : Report) : Prop :=
  AsksForText line ∨
    ∃ arguments file settings candidates, Arguments.ofList line = .ok arguments ∧
      Settings.ofFile tree cwd arguments.config = .ok file ∧
      Settings.load tree cwd arguments = .ok settings ∧
      Discovery.candidates tree cwd settings.root settings.sources settings.tokens =
          .ok candidates ∧
      ¬ ((arguments.strict = true ∨ file.strict = true) ∧ report.unconverted ≠ [])

omit [Host] in
/-- A run is strict when its command line or its settings file says so. -/
theorem strict_of_load (load : Settings.load tree cwd arguments = .ok settings) :
    ∃ file, Settings.ofFile tree cwd arguments.config = .ok file ∧
      (settings.strict = true ↔ arguments.strict = true ∨ file.strict = true) := by
  obtain ⟨directory, file, given, rfl⟩ := merged_of_load load
  exact ⟨file, given, by simp⟩

/-- A run has a report when it finds its files. -/
theorem exists_result_iff (runs : Conversion.MayRun tree cwd settings run) :
    (∃ report, run.result = .ok report) ↔ ∃ candidates,
      Discovery.candidates tree cwd settings.root settings.sources settings.tokens =
        .ok candidates := by
  cases runs with
  | failed unfound => simp [unfound]
  | @ended candidates order batch found perm tells =>
    unfold Conversion.around
    split <;> simp [found]

omit [Host] in
/-- **The status behind a run.** -/
theorem status_close (settings : Settings) (run : Conversion.Run) :
    ((close settings run).status = 0 ∨ (close settings run).status = 1) ∧
      ((close settings run).status = 0 ↔ (∃ report, run.result = .ok report) ∧
        ¬ (settings.strict = true ∧ run.report.unconverted ≠ [])) := by
  unfold close Conversion.Run.report
  cases run.result with
  | error failure => simp
  | ok report =>
    by_cases short : settings.strict = true ∧ report.unconverted ≠ []
    · simp [shortfall?, short]
    · simp only [shortfall?, if_neg short]
      exact ⟨.inl trivial, fun _ => ⟨⟨report, rfl⟩, short⟩, fun _ => trivial⟩

/-- **The status of a program** is 0 when it succeeds, and 1 otherwise. -/
theorem status_eq_zero_iff (ends : MayEnd tree cwd line asked report ending) :
    (ending.status = 0 ∨ ending.status = 1) ∧
      (ending.status = 0 ↔ Succeeds tree cwd line report) := by
  cases ends with
  | @stopped stop read =>
    cases stop <;> simp [Succeeds, AsksForText, read, Arguments.Stop.isFault]
  | unloaded read load => simp [Succeeds, AsksForText, read, printed, load]
  | @ran arguments settings run read load runs =>
    obtain ⟨file, given, strict⟩ := strict_of_load load
    obtain ⟨binary, status⟩ := status_close settings run
    refine ⟨binary, status.trans ?_⟩
    rw [exists_result_iff runs, strict]
    constructor
    · rintro ⟨⟨candidates, found⟩, clean⟩
      exact .inr ⟨arguments, file, settings, candidates, read, given, load, found, clean⟩
    · rintro ((asks | asks) |
        ⟨arguments', file', settings', candidates, read', given', load', found, clean⟩)
      · simp [read] at asks
      · simp [read] at asks
      · obtain rfl : arguments = arguments' := Except.ok.inj (read.symm.trans read')
        obtain rfl : file = file' := Except.ok.inj (given.symm.trans given')
        obtain rfl : settings = settings' := Except.ok.inj (load.symm.trans load')
        exact ⟨⟨candidates, found⟩, clean⟩

/-! ### What a strict run tells -/

/-- Whether notices end in a line that tells on standard error how many files failed to convert. -/
def EndsInCount (count : Nat) (notices : List Notice) : Prop :=
  ∃ front last, notices = front ++ [last] ∧ last.channel = .errors ∧
    last.text = "❌ " ++ (Nat.repr count ++ " file(s) failed to convert")

/-- **A strict run that could not convert all its files** has accounted for them, and tells how many
failed. -/
theorem MayEnd.reports (ends : MayEnd tree cwd line asked report ending)
    (read : Arguments.ofList line = .ok arguments)
    (load : Settings.load tree cwd arguments = .ok settings)
    (found : Discovery.candidates tree cwd settings.root settings.sources settings.tokens =
      .ok candidates) (status : ending.status = 1) :
    report.paths.Perm (candidates.map Candidate.path) ∧
      EndsInCount report.unconverted.length ending.notices := by
  cases ends with
  | stopped read' => simp [read] at read'
  | unloaded read' load' =>
    obtain rfl := Except.ok.inj (read.symm.trans read')
    simp [load] at load'
  | @ran _ _ run read' load' runs =>
    obtain rfl := Except.ok.inj (read.symm.trans read')
    obtain rfl := Except.ok.inj (load.symm.trans load')
    obtain ⟨report, reported, paths, -⟩ := runs.reported found
    have own : run.report = report := by rw [Conversion.Run.report, reported]
    obtain ⟨-, closes⟩ := close_eq_of_status reported status
    have told : (printed arguments asked (close settings run)).notices =
        run.notices.filter (isPrinted (Log.Filter.ofRun asked arguments.verbose)) ++
          [.failed (.unconverted report.unconverted.length)] := by
      rw [closes, printed, List.filter_append]
      rfl
    exact ⟨own ▸ paths, _, _, told, rfl, by rw [own]; rfl⟩

/-! ### Strictness and what a program leaves -/

omit [Host] in
/-- **Endings behind runs that agree** have the same tree and the same output. -/
theorem ending_of_agrees (agrees : run.Agrees run') (settings settings' : Settings)
    (arguments arguments' : Arguments) (asked asked' : Option Bytes) :
    (printed arguments' asked' (close settings' run')).tree =
        (printed arguments asked (close settings run)).tree ∧
      sent .output (printed arguments' asked' (close settings' run')).notices =
        sent .output (printed arguments asked (close settings run)).notices := by
  have unlogged : Channel.output ≠ .log := by decide
  obtain ⟨left, output⟩ := close_agrees settings run
  obtain ⟨left', output'⟩ := close_agrees settings' run'
  refine ⟨(left'.trans agrees.tree).trans left.symm, ?_⟩
  rw [sent_printed unlogged, sent_printed unlogged, output, output', agrees.sent unlogged]

theorem run_eq_close (read : Arguments.ofList line = .ok arguments)
    (load : Settings.load tree cwd arguments = .ok settings) (asked : Option Bytes) :
    Program.run tree cwd line asked =
      printed arguments asked (close settings (Conversion.run tree cwd settings)) := by
  simp only [Program.run, read, load, convert_eq_close]
  rfl

/-- **A command line whose settings are strict or not** may end like one whose settings are not. -/
theorem MayEnd.exists_agrees {line' : List Bytes} {arguments' : Arguments} {strict : Bool}
    (ends : MayEnd tree cwd line asked report ending) (read : Arguments.ofList line = .ok arguments)
    (load : Settings.load tree cwd arguments = .ok settings)
    (read' : Arguments.ofList line' = .ok arguments')
    (load' : Settings.load tree cwd arguments' = .ok { settings with strict := strict })
    (asked' : Option Bytes) :
    ∃ ending', MayEnd tree cwd line' asked' report ending' ∧ ending'.tree = ending.tree ∧
      sent .output ending'.notices = sent .output ending.notices := by
  cases ends with
  | stopped stops => simp [read] at stops
  | unloaded reads fails =>
    obtain rfl := Except.ok.inj (read.symm.trans reads)
    simp [load] at fails
  | @ran _ _ run reads loads runs =>
    obtain rfl := Except.ok.inj (read.symm.trans reads)
    obtain rfl := Except.ok.inj (load.symm.trans loads)
    obtain ⟨run', runs', agrees⟩ := runs.exists_agrees strict
    have same : run'.report = run.report := by
      rw [Conversion.Run.report, Conversion.Run.report, agrees.result]
    refine ⟨printed arguments' asked' (close { settings with strict := strict } run'), ?_,
      ending_of_agrees agrees _ _ _ _ _ _⟩
    rw [← same]
    exact .ran read' load' runs'

/-- **The law of the status.** A program ends with the status 0 when it succeeds and with 1
otherwise. When it fails with settings with which files can be searched, it has accounted for all of
them and tells in its last line how many failed. Settings that differ in strictness lead to the same
trees and the same output. -/
theorem status_of_mayEnd (tree : FileTree) (cwd : Location) :
    (∀ line asked,
      (∃ report, MayEnd tree cwd line asked report (Program.run tree cwd line asked)) ∧
      ∀ report ending, MayEnd tree cwd line asked report ending →
        (ending.status = 0 ∨ ending.status = 1) ∧
        (ending.status = 0 ↔ Succeeds tree cwd line report) ∧
        ∀ arguments settings candidates, Arguments.ofList line = .ok arguments →
          Settings.load tree cwd arguments = .ok settings →
          Discovery.candidates tree cwd settings.root settings.sources settings.tokens =
              .ok candidates → ending.status = 1 →
            report.paths.Perm (candidates.map Candidate.path) ∧
              EndsInCount report.unconverted.length ending.notices) ∧
    ∀ line line' arguments arguments' settings settings',
      Arguments.ofList line = .ok arguments → Arguments.ofList line' = .ok arguments' →
      Settings.load tree cwd arguments = .ok settings →
      Settings.load tree cwd arguments' = .ok settings' → settings.AlikeButStrict settings' →
      ∀ asked asked',
        (Program.run tree cwd line' asked').tree = (Program.run tree cwd line asked).tree ∧
        sent .output (Program.run tree cwd line' asked').notices =
          sent .output (Program.run tree cwd line asked).notices ∧
        ∀ report ending, MayEnd tree cwd line asked report ending →
          ∃ ending', MayEnd tree cwd line' asked' report ending' ∧ ending'.tree = ending.tree ∧
            sent .output ending'.notices = sent .output ending.notices := by
  constructor
  · intro line asked
    refine ⟨exists_mayEnd_run tree cwd line asked, fun report ending ends => ?_⟩
    obtain ⟨binary, status⟩ := status_eq_zero_iff ends
    exact ⟨binary, status, fun _ _ _ read load found => ends.reports read load found⟩
  · intro line line' arguments arguments' settings settings' read read' load load' alike asked
      asked'
    rw [Settings.AlikeButStrict] at alike
    generalize settings'.strict = strict at alike
    subst alike
    have agrees := Conversion.agrees_run tree cwd settings strict
    obtain ⟨left, output⟩ := ending_of_agrees agrees settings { settings with strict := strict }
      arguments arguments' asked asked'
    rw [run_eq_close read load, run_eq_close read' load']
    exact ⟨left, output, fun report ending ends => ends.exists_agrees read load read' load' asked'⟩

end Status

/-! ### A file that is no text -/

namespace Broken

/-- A file that is no text. -/
def tree : FileTree := FileTree.empty.plant [] (Bytes.ofString "r/a.jsx") (.file [0xFF])

def candidate : Candidate := ⟨Bytes.ofString "r/a.jsx", .jsx⟩

def lenient : List Bytes := [Bytes.ofString "r"]

def strict : List Bytes := [Bytes.ofString "r", Bytes.ofString "--strict"]

def settings : Settings where
  root := Bytes.ofString "r"
  tokens := Ignore.defaultTokens

def demanding : Settings := { settings with strict := true }

theorem ofList_lenient : Arguments.ofList lenient = .ok { directory := some "r" } := by cbv

theorem ofList_strict :
    Arguments.ofList strict = .ok { directory := some "r", strict := true } := by cbv

theorem load_lenient : Settings.load tree [] { directory := some "r" } = .ok settings := by rfl

theorem load_strict : Settings.load tree [] { directory := some "r", strict := true } =
    .ok demanding := by rfl

theorem candidates_eq :
    Discovery.candidates tree [] demanding.root demanding.sources demanding.tokens =
      .ok [candidate] := by cbv

theorem convert_candidate : Conversion.convert [] false tree candidate =
    (tree, Conversion.failed candidate .read .notText) := by cbv

theorem status_strict : (Program.run tree [] strict none).status = 1 := by
  have reported := (Conversion.run_of_candidates candidates_eq).2
  rw [run_eq_close ofList_strict load_strict, printed, close, reported]
  simp only [Conversion.convertAll, show demanding.keepOriginals = false from rfl,
    convert_candidate]
  rfl

end Broken

/-- A strict run that cannot convert a file fails and tells so, and one that is not strict leaves
the same tree and prints the same. -/
theorem status_of_mayEnd_broken :
    (∃ report : Report, report.paths.Perm [Broken.candidate.path] ∧
      EndsInCount report.unconverted.length
        (Program.run Broken.tree [] Broken.strict none).notices) ∧
      (Program.run Broken.tree [] Broken.strict none).tree =
        (Program.run Broken.tree [] Broken.lenient none).tree ∧
      sent .output (Program.run Broken.tree [] Broken.strict none).notices =
        sent .output (Program.run Broken.tree [] Broken.lenient none).notices := by
  obtain ⟨programs, pairs⟩ := status_of_mayEnd Broken.tree []
  obtain ⟨⟨report, ends⟩, law⟩ := programs Broken.strict none
  obtain ⟨-, -, reports⟩ := law report _ ends
  obtain ⟨left, output, -⟩ := pairs _ _ _ _ _ _ Broken.ofList_lenient Broken.ofList_strict
    Broken.load_lenient Broken.load_strict rfl none none
  exact ⟨⟨report, reports _ _ _ Broken.ofList_strict Broken.load_strict Broken.candidates_eq
    Broken.status_strict⟩, left, output⟩

end Program

end Retarget
