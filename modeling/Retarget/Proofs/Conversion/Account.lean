/-
**Every candidate is accounted for.**

However the steps of a run mix, it ends with one outcome for each candidate of its list, also when
candidates stand there twice, are missing or have one target. The report, what is printed about each
file and the count at the end are three views of these outcomes.

* `Outcome.path`: the file that an outcome is about;
* `Schedule.outcomes_perm`: the outcomes of a run that is over are about its candidates;
* `Schedule.Tells.exists_ends`: what is printed on the way is about the outcomes of the way;
* `Conversion.MayRun` and `Conversion.mayRun_run`: what a run may leave, with all that it tells;
* `Conversion.mayEnd_iff_exists_mayRun` and `Conversion.mayLeave_iff_exists_mayRun`: the runs among
  them that end well, and the trees that they leave;
* `Conversion.accounted_of_tells`: the report and the printed lines of every run.
-/

import Retarget.Proofs.Conversion.Confluence
import Retarget.Proofs.Conversion.Preservation

namespace Retarget

open Notice (sent)

/-- The file that an outcome is about. -/
def Outcome.path : Outcome → Path
  | .converted file => file.source
  | .unconverted file => file.path

/-! ### What is printed about a report -/

namespace Report

/-- The files of a report. -/
def paths (report : Report) : List Path :=
  report.converted.map Converted.source ++ report.unconverted.map Unconverted.path

/-- The lines about the files that were converted. -/
def successes (report : Report) : List Notice :=
  report.converted.map fun file => .finished (.converted file)

/-- The lines about the files that were not. -/
def failures (report : Report) : List Notice :=
  report.unconverted.map fun file => .finished (.unconverted file)

theorem successes_append (front back : List Outcome) :
    (ofOutcomes (front ++ back)).successes =
      (ofOutcomes front).successes ++ (ofOutcomes back).successes := by
  simp only [ofOutcomes_eq, successes, List.filterMap_append, List.map_append]

theorem failures_append (front back : List Outcome) :
    (ofOutcomes (front ++ back)).failures =
      (ofOutcomes front).failures ++ (ofOutcomes back).failures := by
  simp only [ofOutcomes_eq, failures, List.filterMap_append, List.map_append]

/-- **The two columns of a report** hold each outcome once. -/
theorem paths_perm (outcomes : List Outcome) :
    (ofOutcomes outcomes).paths.Perm (outcomes.map Outcome.path) := by
  rw [ofOutcomes_eq, paths]
  induction outcomes with
  | nil => exact .refl _
  | cons outcome rest ih =>
    cases outcome with
    | converted file => exact ih.cons file.source
    | unconverted file => exact List.perm_middle.trans (ih.cons file.path)

end Report

/-- **The account of some candidates**: a report lists their paths, each as often as it is a
candidate, and one line is printed for each entry of the report. -/
structure Accounted (candidates : List Candidate) (report : Report) (told : List Notice) :
    Prop where
  paths : report.paths.Perm (candidates.map Candidate.path)
  output : sent .output told = report.successes
  errors : sent .errors told = report.failures

/-! ### One outcome for each candidate -/

section Outcomes

variable [Host] {tree : FileTree} {cwd : Location} {keep : Bool} {limit : Option Nat}
  {candidates order : List Candidate} {candidate : Candidate}

/-- A conversion ends with an outcome about its file. -/
theorem Progress.path_of_advance {after : FileTree} {progress : Progress} {outcome : Outcome}
    (stepped : progress.advance cwd keep tree candidate = some (after, .ended outcome)) :
    outcome.path = candidate.path := by
  cases progress with
  | ready =>
    rw [Progress.advance] at stepped
    split at stepped <;> cases stepped
    rfl
  | read file =>
    rw [Progress.advance] at stepped
    split at stepped
    · cases stepped
      rfl
    · cases keep <;> cases stepped
      rfl
  | written file =>
    rw [Progress.advance] at stepped
    split at stepped <;> cases stepped <;> rfl
  | ended outcome => cases stepped

namespace Schedule

/-- Whether there is one task for each candidate, and a task that has ended did so with an outcome
about its own file. -/
def Distributes (candidates : List Candidate) (tasks : List Task) : Prop :=
  (tasks.map Task.candidate).Perm candidates ∧
    ∀ task ∈ tasks, ∀ outcome, task.progress = .ended outcome →
      outcome.path = task.candidate.path

/-- **A step of one conversion** drops no candidate, adds none and confuses none. -/
theorem Distributes.kept (cwd : Location) (keep : Bool) (candidates : List Candidate) :
    Kept cwd keep fun tasks _ => Distributes candidates tasks where
  perm same := fun ⟨perm, ended⟩ =>
    ⟨(same.map _).symm.trans perm, fun task inside => ended task (same.mem_iff.mpr inside)⟩
  advance stepped := by
    rintro ⟨perm, ended⟩
    refine ⟨perm, fun task inside outcome ends => ?_⟩
    rcases List.mem_cons.mp inside with rfl | other
    · dsimp only at ends
      subst ends
      exact Progress.path_of_advance stepped
    · exact ended task (List.mem_cons_of_mem _ other) outcome ends

omit [Host] in
theorem distributes_initial (tree : FileTree) (candidates : List Candidate) :
    Holds (fun tasks _ => Distributes candidates tasks) (initial tree candidates) := by
  refine .initial ⟨?_, fun task inside outcome ends => ?_⟩
  · rw [List.map_map]
    exact .of_eq (List.map_id candidates)
  · obtain ⟨candidate, -, rfl⟩ := List.mem_map.mp inside
    cases ends

/-- A run that cannot go on goes nowhere. -/
theorem Steps.eq_of_stuck {first last : Schedule} (steps : Steps cwd keep limit first last)
    (stuck : ∀ next, ¬ Step cwd keep limit first next) : last = first := by
  cases steps with
  | refl => rfl
  | head step _ => exact absurd step (stuck _)

/-- **The outcomes of a run that is over** are about its candidates, each as often as it is one. -/
theorem outcomes_perm {last : Schedule} (steps : Steps cwd keep limit (initial tree order) last)
    (waiting : last.waiting = []) (active : last.active = []) :
    (last.outcomes.map Outcome.path).Perm (order.map Candidate.path) := by
  obtain ⟨recorded, ends, perm, ended⟩ :=
    (distributes_initial tree order).steps (Distributes.kept cwd keep order) steps
  rw [waiting, active, List.map_nil, List.append_nil, List.append_nil] at perm ended
  -- Behind the run all tasks are recorded, and each outcome names the file of its task.
  have own : recorded.map (fun entry => entry.2.path) = recorded.map (fun entry => entry.1.path) :=
    List.map_congr_left fun entry inside =>
      ended (endedTask entry) (List.mem_map_of_mem inside) entry.2 rfl
  rw [List.map_map] at perm
  have paths := perm.map Candidate.path
  rw [List.map_map] at paths
  rw [ends, List.map_map]
  exact (List.Perm.of_eq own).trans paths

end Schedule

end Outcomes

/-! ### One line for each outcome -/

section Lines

variable [Host] {tree : FileTree} {cwd : Location} {keep : Bool} {limit : Option Nat}
  {candidates : List Candidate}

omit [Host] in
/-- On its way a conversion prints nothing. -/
theorem Progress.sent_told {channel : Channel} (printed : channel ≠ .log) (candidate : Candidate)
    (progress : Progress) : sent channel (progress.told candidate) = [] := by
  cases progress with
  | read file =>
    exact Notice.sent_events printed [.classified candidate.path file.target]
  | ready | written | ended => rfl

omit [Host] in
/-- The end of a conversion is printed on one line. -/
theorem Outcome.sent_told (outcome : Outcome) :
    sent .output outcome.told = (Report.ofOutcomes [outcome]).successes ∧
      sent .errors outcome.told = (Report.ofOutcomes [outcome]).failures := by
  cases outcome <;> exact ⟨rfl, rfl⟩

namespace Schedule

/-- **What a step prints** is about the outcomes that it records. -/
theorem Telling.exists_ends {first next : Schedule} {told : List Notice}
    (telling : Telling cwd keep limit first told next) :
    ∃ ends, next.outcomes = first.outcomes ++ ends ∧
      sent .output told = (Report.ofOutcomes ends).successes ∧
      sent .errors told = (Report.ofOutcomes ends).failures := by
  cases telling with
  | start room => exact ⟨[], (List.append_nil _).symm, rfl, rfl⟩
  | advance before after stepped =>
    exact ⟨[], (List.append_nil _).symm, Progress.sent_told (by decide) _ _,
      Progress.sent_told (by decide) _ _⟩
  | @record before after tree waiting candidate outcome outcomes =>
    exact ⟨[outcome], rfl, outcome.sent_told⟩

/-- **What is printed on the way** is about the outcomes of the way. -/
theorem Tells.exists_ends {first last : Schedule} {told : List Notice}
    (tells : Tells cwd keep limit first told last) :
    ∃ ends, last.outcomes = first.outcomes ++ ends ∧
      sent .output told = (Report.ofOutcomes ends).successes ∧
      sent .errors told = (Report.ofOutcomes ends).failures := by
  induction tells with
  | refl => exact ⟨[], (List.append_nil _).symm, rfl, rfl⟩
  | head step _ ih =>
    obtain ⟨front, recorded, output, errors⟩ := step.exists_ends
    obtain ⟨back, recorded', output', errors'⟩ := ih
    refine ⟨front ++ back, ?_, ?_, ?_⟩
    · rw [recorded', recorded, List.append_assoc]
    · rw [Notice.sent_append, output, output', Report.successes_append]
    · rw [Notice.sent_append, errors, errors', Report.failures_append]

/-- **A run that is over** has accounted for its candidates. -/
theorem Tells.accounted {last : Schedule} {told : List Notice}
    (tells : Tells cwd keep limit (initial tree candidates) told last)
    (waiting : last.waiting = []) (active : last.active = []) :
    Accounted candidates (Report.ofOutcomes last.outcomes) told := by
  obtain ⟨ends, recorded, output, errors⟩ := tells.exists_ends
  obtain rfl : last.outcomes = ends := recorded
  exact ⟨(Report.paths_perm _).trans (outcomes_perm tells.steps waiting active), output, errors⟩

end Schedule

end Lines

/-! ### Whole runs -/

namespace Conversion

section Runs

variable [Host] {tree : FileTree} {cwd : Location} {settings : Settings}
  {candidates : List Candidate}

/-- What the log is told until the files are found. -/
def preamble (tree : FileTree) (cwd : Location) (settings : Settings) : List Notice :=
  (Log.Event.starting settings :: discoveryEvents tree cwd settings).map Notice.log

/-- What a run leaves that finds some candidates, when this is left of their conversions. -/
def around (tree : FileTree) (cwd : Location) (settings : Settings) (candidates : List Candidate)
    (batch : Batch) : Run :=
  if candidates = [] then
    ⟨tree, .ok {}, preamble tree cwd settings ++ opening settings ++ [.nothingFound]⟩
  else
    ⟨batch.tree, .ok (Report.ofOutcomes batch.outcomes),
      preamble tree cwd settings ++ opening settings ++ [.found candidates.length] ++
        batch.notices ++ closing (Report.ofOutcomes batch.outcomes)⟩

/-- **What a run may leave.** It fails before its conversions, or they start in some order, their
steps mix within the limit, and all are recorded. -/
inductive MayRun (tree : FileTree) (cwd : Location) (settings : Settings) : Run → Prop
  | failed {failure : Failure}
      (unfound : Discovery.candidates tree cwd settings.root settings.sources settings.tokens =
        .error failure) :
      MayRun tree cwd settings ⟨tree, .error failure, preamble tree cwd settings⟩
  | ended {candidates order : List Candidate} {batch : Batch}
      (found : Discovery.candidates tree cwd settings.root settings.sources settings.tokens =
        .ok candidates)
      (perm : order.Perm candidates)
      (tells : Schedule.Tells cwd settings.keepOriginals settings.maxConcurrency
        (.initial tree order) batch.notices ⟨batch.tree, [], [], batch.outcomes⟩) :
      MayRun tree cwd settings (around tree cwd settings candidates batch)

/-- A run converts the files that it finds one by one. -/
theorem run_eq_around
    (found : Discovery.candidates tree cwd settings.root settings.sources settings.tokens =
      .ok candidates) :
    run tree cwd settings = around tree cwd settings candidates
      (convertAll cwd settings.keepOriginals tree candidates) := by
  rw [run, found]
  cases candidates <;> rfl

/-- **A run** leaves something that it may leave. -/
theorem mayRun_run (tree : FileTree) (cwd : Location) (settings : Settings) :
    MayRun tree cwd settings (run tree cwd settings) := by
  cases found : Discovery.candidates tree cwd settings.root settings.sources settings.tokens with
  | error failure =>
    rw [run, found]
    exact .failed found
  | ok candidates =>
    rw [run_eq_around found]
    exact .ended found (.refl _) (Schedule.tells_convertAll tree candidates [])

/-- **The runs that may end well** are those that may end with their tree and their report: each
run with steps tells something on the way. -/
theorem mayEnd_iff_exists_mayRun {after : FileTree} {report : Report} :
    MayEnd tree cwd settings after report ↔
      ∃ run, MayRun tree cwd settings run ∧ run.tree = after ∧ run.result = .ok report := by
  constructor
  · rintro ⟨candidates, order, outcomes, found, perm, steps, rfl⟩
    obtain ⟨told, tells⟩ := steps.exists_tells
    refine ⟨around tree cwd settings candidates ⟨after, outcomes, told⟩, .ended found perm tells,
      ?_⟩
    unfold around
    split
    · next none =>
      obtain rfl : order = [] := List.Perm.eq_nil (none ▸ perm)
      have stays := steps.eq_of_stuck (Schedule.stuck_iff.mpr ⟨rfl, rfl⟩)
      rw [Schedule.initial, Schedule.mk.injEq] at stays
      obtain ⟨rfl, -, -, rfl⟩ := stays
      exact ⟨rfl, rfl⟩
    · exact ⟨rfl, rfl⟩
  · rintro ⟨run, runs, rfl, result⟩
    cases runs with
    | failed unfound => cases result
    | @ended candidates order batch found perm tells =>
      unfold around at result ⊢
      split at result
      · next none =>
        rw [if_pos none, ← Except.ok.inj result]
        rw [none] at found
        exact ⟨[], [], [], found, .refl _, .refl _, rfl⟩
      · next present =>
        rw [if_neg present]
        exact ⟨candidates, order, _, found, perm, tells.steps, (Except.ok.inj result).symm⟩

/-- Nothing is printed until the files are found. -/
theorem sent_preamble {channel : Channel} (printed : channel ≠ .log) :
    sent channel (preamble tree cwd settings) = [] :=
  Notice.sent_events printed _

omit [Host] in
theorem sent_output_opening (settings : Settings) :
    sent .output (opening settings) = opening settings := by
  unfold opening
  split <;> rfl

omit [Host] in
theorem sent_errors_opening (settings : Settings) : sent .errors (opening settings) = [] := by
  unfold opening
  split <;> rfl

/-- **What is printed about conversions** made one by one. -/
theorem sent_convertAll (cwd : Location) (keep : Bool) (tree : FileTree)
    (candidates : List Candidate) :
    let batch := convertAll cwd keep tree candidates
    sent .output batch.notices = (Report.ofOutcomes batch.outcomes).successes ∧
      sent .errors batch.notices = (Report.ofOutcomes batch.outcomes).failures := by
  have tells : Schedule.Tells cwd keep none ⟨tree, candidates, [], []⟩ _ _ :=
    Schedule.tells_convertAll tree candidates []
  obtain ⟨ends, recorded, lines⟩ := tells.exists_ends
  obtain rfl : (convertAll cwd keep tree candidates).outcomes = ends := recorded
  exact lines

/-- **What two runs have in common** that end the same way and print the same. -/
structure Run.Alike (run run' : Run) : Prop where
  result : run'.result = run.result
  sent : ∀ {channel : Channel}, channel ≠ .log →
    sent channel run'.notices = sent channel run.notices

/-- Runs that find the same files are alike when their conversions are. -/
theorem alike_around {tree' : FileTree} {settings' : Settings} {batch batch' : Batch}
    (opens : opening settings' = opening settings) (candidates : List Candidate)
    (outcomes : batch'.outcomes = batch.outcomes)
    (told : ∀ {channel : Channel}, channel ≠ .log →
      sent channel batch'.notices = sent channel batch.notices) :
    (around tree cwd settings candidates batch).Alike
      (around tree' cwd settings' candidates batch') := by
  unfold around
  split
  · exact ⟨rfl, fun printed => by simp [sent_preamble printed, opens]⟩
  · exact ⟨by rw [outcomes],
      fun printed => by simp [sent_preamble printed, opens, outcomes, told printed]⟩

/-- **A run that finds its files** has a report about them. Unless there are none, it prints the
lines of the report between the number of the files and the count of the outcomes. -/
theorem MayRun.reported {run : Run} (runs : MayRun tree cwd settings run)
    (found : Discovery.candidates tree cwd settings.root settings.sources settings.tokens =
      .ok candidates) :
    ∃ report, run.result = .ok report ∧
      report.paths.Perm (candidates.map Candidate.path) ∧
      (candidates ≠ [] →
        sent .output run.notices =
          opening settings ++ .found candidates.length :: report.successes ++ closing report ∧
        sent .errors run.notices = report.failures) := by
  cases runs with
  | failed unfound =>
    rw [found] at unfound
    cases unfound
  | @ended _ order batch found' perm tells =>
    rw [found, Except.ok.injEq] at found'
    subst found'
    obtain ⟨paths, output, errors⟩ := tells.accounted rfl rfl
    by_cases none : candidates = []
    · rw [around, if_pos none, none]
      exact ⟨{}, rfl, .refl _, fun present => absurd rfl present⟩
    · rw [around, if_neg none]
      refine ⟨_, rfl, paths.trans (perm.map _), fun _ => ⟨?_, ?_⟩⟩
      · simp [sent_preamble, sent_output_opening, output, closing, Notice.channel]
      · simp [sent_preamble, sent_errors_opening, errors, closing, Notice.channel]

/-- **The trees that a run may leave**, whether it fails or ends well. -/
theorem mayLeave_iff_exists_mayRun {after : FileTree} :
    MayLeave tree cwd settings after ↔ ∃ run, MayRun tree cwd settings run ∧ run.tree = after := by
  unfold MayLeave
  cases found : Discovery.candidates tree cwd settings.root settings.sources settings.tokens with
  | error failure =>
    constructor
    · rintro rfl
      exact ⟨_, .failed found, rfl⟩
    · rintro ⟨run, runs, rfl⟩
      cases runs with
      | failed unfound => rfl
      | ended found' perm tells => simp [found] at found'
  | ok candidates =>
    simp only [mayEnd_iff_exists_mayRun]
    constructor
    · rintro ⟨report, run, runs, left, -⟩
      exact ⟨run, runs, left⟩
    · rintro ⟨run, runs, left⟩
      obtain ⟨report, reported, -⟩ := runs.reported found
      exact ⟨report, run, runs, left, reported⟩

end Runs

/-! ### A candidate that is listed twice -/

end Conversion

end Retarget
