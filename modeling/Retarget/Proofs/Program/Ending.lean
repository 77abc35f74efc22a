/-
**How a program ends.**

A program stops at its command line, at its settings, in front of its conversions or behind them.
Where it stops in front of them it has changed nothing and printed nothing on standard output, and
the one failure behind them is that of a strict run. So an error leaves the tree as it was: that of
a file does so for this file, and any other for the whole tree.

* `Program.close`: what a run leads the program to;
* `Program.MayEnd` and `Program.exists_mayEnd_run`: the endings that a command line may lead to;
* `Program.sent_printed`: the log filter drops nothing that is printed;
* `Program.unchanged_of_failure`: errors change nothing.
-/

import Mathlib
import Retarget.FileTree.Build
import Retarget.Program
import Retarget.Proofs.Conversion.Account
import Retarget.Proofs.Conversion.Verdict

namespace Retarget

open Notice (sent)

/-- The report of a run. A run that fails reports nothing. -/
def Conversion.Run.report (run : Run) : Report :=
  match run.result with
  | .ok report => report
  | .error _ => {}

namespace Program

section Endings

variable [Host] {tree : FileTree} {cwd : Location} {line : List Bytes} {asked : Option Bytes}
  {arguments : Arguments} {settings : Settings} {run : Conversion.Run} {report : Report}
  {ending : Ending} {channel : Channel}

/-! ### The endings of a command line -/

/-- What a run leads the program to. -/
def close (settings : Settings) (run : Conversion.Run) : Ending :=
  match run.result with
  | .error failure => ⟨run.tree, 1, run.notices ++ [.failed failure]⟩
  | .ok report =>
    match shortfall? settings report with
    | some failure => ⟨run.tree, 1, run.notices ++ [.failed failure]⟩
    | none => ⟨run.tree, 0, run.notices⟩

theorem convert_eq_close (tree : FileTree) (cwd : Location) (settings : Settings) :
    convert tree cwd settings = close settings (Conversion.run tree cwd settings) := rfl

omit [Host] in
/-- The program leaves the tree of its run, and prints on standard output what the run does. -/
theorem close_agrees (settings : Settings) (run : Conversion.Run) :
    (close settings run).tree = run.tree ∧
      sent .output (close settings run).notices = sent .output run.notices := by
  unfold close
  split
  · exact ⟨rfl, by simp [Notice.channel]⟩
  · split
    · exact ⟨rfl, by simp [Notice.channel]⟩
    · exact ⟨rfl, rfl⟩

/-- An ending with those of its notices that are printed. -/
def printed (arguments : Arguments) (asked : Option Bytes) (ending : Ending) : Ending :=
  { ending with
    notices := ending.notices.filter (isPrinted (Log.Filter.ofRun asked arguments.verbose)) }

/-- **The endings that a command line may lead to**, each with the report of its run. Without a run
nothing is reported. -/
inductive MayEnd (tree : FileTree) (cwd : Location) (line : List Bytes) (asked : Option Bytes) :
    Report → Ending → Prop
  /-- The command line leads to no run. -/
  | stopped {stop : Arguments.Stop} (read : Arguments.ofList line = .error stop) :
      MayEnd tree cwd line asked {} ⟨tree, if stop.isFault then 1 else 0, [.stopped stop]⟩
  /-- The settings lead to no run. -/
  | unloaded {arguments : Arguments} {failure : Failure}
      (read : Arguments.ofList line = .ok arguments)
      (load : Settings.load tree cwd arguments = .error failure) :
      MayEnd tree cwd line asked {} (printed arguments asked ⟨tree, 1, [.failed failure]⟩)
  /-- A run is made. -/
  | ran {arguments : Arguments} {settings : Settings} {run : Conversion.Run}
      (read : Arguments.ofList line = .ok arguments)
      (load : Settings.load tree cwd arguments = .ok settings)
      (runs : Conversion.MayRun tree cwd settings run) :
      MayEnd tree cwd line asked run.report (printed arguments asked (close settings run))

/-- **The program** ends in a way that its command line may lead to. -/
theorem exists_mayEnd_run (tree : FileTree) (cwd : Location) (line : List Bytes)
    (asked : Option Bytes) :
    ∃ report, MayEnd tree cwd line asked report (Program.run tree cwd line asked) := by
  unfold Program.run
  cases read : Arguments.ofList line with
  | error stop => exact ⟨_, .stopped read⟩
  | ok arguments =>
    dsimp only
    cases load : Settings.load tree cwd arguments with
    | error failure => exact ⟨_, .unloaded read load⟩
    | ok settings =>
      dsimp only
      rw [convert_eq_close]
      exact ⟨_, .ran read load (Conversion.mayRun_run tree cwd settings)⟩

omit [Host] in
/-- **The log filter** drops nothing that is printed. -/
theorem sent_printed (unlogged : channel ≠ .log) :
    sent channel (printed arguments asked ending).notices = sent channel ending.notices := by
  rw [printed, sent, sent, List.filter_filter]
  refine List.filter_congr fun notice _ => ?_
  cases notice with
  | log event => simp [Notice.channel, unlogged.symm]
  | _ => simp [isPrinted]

omit [Host] in
/-- A failure is printed. -/
theorem failed_mem_printed {failure : Failure} :
    .failed failure ∈ (printed arguments asked ending).notices ↔
      .failed failure ∈ ending.notices := by
  simp [printed, isPrinted]

/-! ### Errors -/

/-- **A run that fails** has changed nothing and printed nothing. -/
theorem unchanged_of_mayRun {failure : Failure} (runs : Conversion.MayRun tree cwd settings run)
    (failed : run.result = .error failure) :
    run.tree = tree ∧ sent .output run.notices = [] := by
  cases runs with
  | failed unfound => exact ⟨rfl, Conversion.sent_preamble (by decide)⟩
  | @ended candidates order batch found perm tells =>
    unfold Conversion.around at failed
    split at failed <;> cases failed

omit [Host] in
/-- A program that fails behind a run with a report tells that not all files could be converted. -/
theorem close_eq_of_status (reported : run.result = .ok report)
    (status : (close settings run).status = 1) :
    report.unconverted ≠ [] ∧ close settings run =
      ⟨run.tree, 1, run.notices ++ [.failed (.unconverted report.unconverted.length)]⟩ := by
  unfold close at status ⊢
  simp only [reported] at status ⊢
  by_cases short : settings.strict = true ∧ report.unconverted ≠ []
  · simp only [shortfall?, if_pos short]
    exact ⟨short.2, trivial⟩
  · simp [shortfall?, if_neg short] at status

/-- **A program that fails behind a run** has changed nothing, unless not all files could be
converted. -/
theorem unchanged_of_close (runs : Conversion.MayRun tree cwd settings run)
    (status : (close settings run).status = 1)
    (other : ∀ count, .failed (.unconverted count) ∉ (close settings run).notices) :
    (close settings run).tree = tree ∧ sent .output (close settings run).notices = [] := by
  cases result : run.result with
  | error failure =>
    obtain ⟨same, silent⟩ := unchanged_of_mayRun runs result
    rw [close, result]
    exact ⟨same, by simp [silent, Notice.channel]⟩
  | ok report =>
    -- With a report only the failure that is left out here remains.
    obtain ⟨-, ends⟩ := close_eq_of_status result status
    rw [ends] at other
    exact absurd List.mem_concat_self (other report.unconverted.length)

/-- **Errors leave the tree as it was.** A file that cannot be converted fails when it is read or
its target is written, and then nothing has changed; only a host that refuses to remove the file
makes it fail later. A run that fails has changed nothing and printed nothing on standard output,
and so has a program that ends with the status 1, unless it does so because a strict run could not
convert all its files. -/
theorem unchanged_of_failure (tree : FileTree) (cwd : Location) :
    (∀ keep candidate file,
      (Conversion.convert cwd keep tree candidate).2 = .unconverted file →
        file.path = candidate.path ∧
          (file.stage ≠ .delete → (Conversion.convert cwd keep tree candidate).1 = tree) ∧
          (Host.Removes → file.stage = .read ∨ file.stage = .write)) ∧
    (∀ settings, Conversion.MayRun tree cwd settings (Conversion.run tree cwd settings) ∧
      ∀ run failure, Conversion.MayRun tree cwd settings run → run.result = .error failure →
        run.tree = tree ∧ sent .output run.notices = []) ∧
    ∀ line asked,
      (∃ report, MayEnd tree cwd line asked report (Program.run tree cwd line asked)) ∧
      ∀ report ending, MayEnd tree cwd line asked report ending → ending.status = 1 →
        (∀ count, .failed (.unconverted count) ∉ ending.notices) →
          ending.tree = tree ∧ sent .output ending.notices = [] := by
  refine ⟨fun keep candidate file => Conversion.unchanged_of_unconverted,
    fun settings =>
      ⟨Conversion.mayRun_run tree cwd settings, fun run failure => unchanged_of_mayRun⟩,
    fun line asked => ⟨exists_mayEnd_run tree cwd line asked, ?_⟩⟩
  intro report ending ends status other
  cases ends with
  | @stopped stop read =>
    refine ⟨rfl, ?_⟩
    have fault : stop.isFault = true := by
      by_contra calm
      simp [calm] at status
    simp [Notice.channel, fault]
  | unloaded read load =>
    rw [sent_printed (by decide)]
    exact ⟨rfl, by simp [Notice.channel]⟩
  | ran read load runs =>
    simp only [failed_mem_printed] at other
    rw [sent_printed (by decide)]
    exact unchanged_of_close runs status other

end Endings

/-! ### A target that is taken, and a root that is not there -/

namespace Blocked

/-- A file to convert, and a directory in the place of its target. -/
def tree : FileTree :=
  (FileTree.empty.plant [] (Bytes.ofString "r/a.jsx") (.file [])).plant []
    (Bytes.ofString "r/a.tsx") .directory

def candidate : Candidate := ⟨Bytes.ofString "r/a.jsx", .jsx⟩

def line : List Bytes := [Bytes.ofString "gone"]

theorem convert_candidate : (Conversion.convert [] false tree candidate).2 =
    .unconverted ⟨candidate.path, .write, .isDirectory⟩ := by cbv

theorem locate_gone : Discovery.locate tree [] (Bytes.ofString "gone") =
    .error (.missing (Bytes.ofString "gone")) := by cbv

theorem run_gone : (Conversion.run tree [] { root := Bytes.ofString "gone" }).result =
    .error (.missing (Bytes.ofString "gone")) := by
  simp only [Conversion.run, Discovery.candidates, Discovery.walk, locate_gone, Except.map]

theorem run_line : (Program.run tree [] line none).status = 1 ∧
    ∀ count, .failed (.unconverted count) ∉ (Program.run tree [] line none).notices := by
  have read : Arguments.ofList line = .ok { directory := some "gone" } := by cbv
  have load : Settings.load tree [] { directory := some "gone" } =
      .ok { root := Bytes.ofString "gone", tokens := Ignore.defaultTokens } := by rfl
  constructor
  · simp [Program.run, read, load, convert, Conversion.run, Discovery.candidates, Discovery.walk,
      locate_gone, Except.map]
  · simp [Program.run, read, load, convert, Conversion.run, Discovery.candidates, Discovery.walk,
      locate_gone, Except.map]

end Blocked

/-- A target that cannot be written, a run without a root and a program without one change
nothing. -/
theorem unchanged_of_failure_blocked :
    (Conversion.convert [] false Blocked.tree Blocked.candidate).1 = Blocked.tree ∧
      (Conversion.run Blocked.tree [] { root := Bytes.ofString "gone" }).tree = Blocked.tree ∧
      (Program.run Blocked.tree [] Blocked.line none).status = 1 ∧
      sent .output (Program.run Blocked.tree [] Blocked.line none).notices = [] := by
  obtain ⟨files, runs, programs⟩ := unchanged_of_failure Blocked.tree []
  obtain ⟨made, unchanged⟩ := runs { root := Bytes.ofString "gone" }
  obtain ⟨⟨report, ends⟩, silent⟩ := programs Blocked.line none
  obtain ⟨status, other⟩ := Blocked.run_line
  obtain ⟨-, early, -⟩ := files false _ _ Blocked.convert_candidate
  exact ⟨early (by decide), (unchanged _ _ made Blocked.run_gone).1, status,
    (silent report _ ends status other).2⟩

end Program

end Retarget
