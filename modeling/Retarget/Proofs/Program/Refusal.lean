/-
**A root that leads to no directory.**

Such a root is refused before any file is converted. Where nothing stands, or a file, the failure
carries the root, and its message says that the root does not exist or is not a directory. Where the
root is obstructed the failure is that of the system, and its message says neither: a root behind a
file, one with a name that is too long and one with too many links on its way are not told of as
roots.

* `Discovery.Refuses`: the failures with which a root is refused;
* `Discovery.Refuses.tellsOfRoot_iff`: whose messages tell of the root;
* `Program.refused_of_astray`: a search, a run and a program with such a root;
* `Program.untold_below_file`: a root behind a file.
-/

import Retarget.Proofs.FileTree.Obstacle
import Retarget.Proofs.Program.Ending

namespace Retarget

open FileTree (Obstructed)
open Notice (sent)

/-- Whether a text holds some words. -/
def Says (words text : String) : Prop := words.toList <:+: text.toList

/-- Whether a text says that a root does not exist, or is not a directory. -/
def TellsOfRoot (text : String) : Prop := Says "does not exist" text ∨ Says "not a directory" text

instance (text : String) : Decidable (TellsOfRoot text) :=
  inferInstanceAs (Decidable (_ <:+: _ ∨ _ <:+: _))

/-! ### Searches -/

namespace Discovery

variable {tree : FileTree} {cwd : Location} {root : Path} {failure : Failure}

/-- **How a root is refused** that leads to no directory. -/
inductive Refuses (tree : FileTree) (cwd : Location) (root : Path) : Failure → Prop
  | missing (nothing : tree.resolve cwd .look root = .error .missing ∨
      ∃ parent name, tree.resolve cwd .look root = .ok (.vacant parent name)) :
      Refuses tree cwd root (.missing root)
  | notDirectory {location : Location} {content : Bytes}
      (file : tree.resolve cwd .look root = .ok (.file location content)) :
      Refuses tree cwd root (.notDirectory root)
  | obstructed {error : FileError} (obstructed : Obstructed tree cwd root error) :
      Refuses tree cwd root (.file error)

/-- **A root that leads to no directory** is refused. -/
theorem exists_refuses (clean : 0 ∉ root)
    (astray : ∀ home, tree.resolve cwd .look root ≠ .ok (.directory home)) :
    ∃ failure, Refuses tree cwd root failure ∧ locate tree cwd root = .error failure := by
  unfold locate
  cases resolved : tree.resolve cwd .look root with
  | error error =>
    by_cases absent : error = .missing
    · subst absent
      exact ⟨_, .missing (.inl resolved), by simp⟩
    · exact ⟨_, .obstructed ((FileTree.obstructed_iff clean).mpr ⟨resolved, absent⟩),
        by simp [absent]⟩
  | ok place =>
    cases place with
    | directory home => exact absurd resolved (astray home)
    | file location content => exact ⟨_, .notDirectory resolved, rfl⟩
    | link location target => exact absurd resolved FileTree.resolve_look_ne_link
    | vacant parent name => exact ⟨_, .missing (.inr ⟨parent, name, resolved⟩), rfl⟩

/-- Nothing is found below a root that is refused. -/
theorem candidates_of_locate [Host] (located : locate tree cwd root = .error failure)
    (wanted : List Script.Source) (tokens : List String) :
    candidates tree cwd root wanted tokens = .error failure := by
  simp [candidates, walk, located, Except.map]

/-! ### Messages -/

/-- What a part of a text says the text says. -/
theorem says_append {words part : String} (said : Says words part) (front back : String) :
    Says words (front ++ (part ++ back)) := by
  unfold Says at *
  simp only [String.toList_append]
  exact said.trans (List.infix_append' _ _ _)

theorem tellsOfRoot_missing (front : String) (root : Path) :
    TellsOfRoot (front ++ (Failure.missing root).message) :=
  .inl (says_append ⟨"The provided path ".toList, ": ".toList, rfl⟩ front root.shown)

theorem tellsOfRoot_notDirectory (front : String) (root : Path) :
    TellsOfRoot (front ++ (Failure.notDirectory root).message) :=
  .inr (says_append ⟨"The provided path is ".toList, ": ".toList, rfl⟩ front root.shown)

/-- The errors that obstruct a root do not tell of it. -/
theorem not_tellsOfRoot_file {error : FileError} (obstructed : Obstructed tree cwd root error) :
    ¬ TellsOfRoot (Failure.file error).message ∧
      ¬ TellsOfRoot (Notice.failed (.file error)).text := by
  rcases obstructed.cases_error with rfl | rfl | rfl <;> exact ⟨by decide, by decide⟩

/-- **The message of a failure tells of the root**, and so does what is printed of it, when the root
is not obstructed. -/
theorem Refuses.tellsOfRoot_iff (clean : 0 ∉ root) (refuses : Refuses tree cwd root failure) :
    (TellsOfRoot failure.message ↔ ∀ error, ¬ Obstructed tree cwd root error) ∧
      (TellsOfRoot (Notice.failed failure).text ↔ ∀ error, ¬ Obstructed tree cwd root error) := by
  cases refuses with
  | missing nothing =>
    have free : ∀ error, ¬ Obstructed tree cwd root error := by
      intro error obstructed
      obtain ⟨fails, there⟩ := (FileTree.obstructed_iff clean).mp obstructed
      rcases nothing with absent | ⟨parent, name, vacant⟩
      · exact there (Except.error.inj (fails.symm.trans absent))
      · cases fails.symm.trans vacant
    have told := tellsOfRoot_missing "" root
    rw [String.empty_append] at told
    exact ⟨iff_of_true told free, iff_of_true (tellsOfRoot_missing "❌ " root) free⟩
  | notDirectory file =>
    have free : ∀ error, ¬ Obstructed tree cwd root error := by
      intro error obstructed
      cases ((FileTree.obstructed_iff clean).mp obstructed).1.symm.trans file
    have told := tellsOfRoot_notDirectory "" root
    rw [String.empty_append] at told
    exact ⟨iff_of_true told free, iff_of_true (tellsOfRoot_notDirectory "❌ " root) free⟩
  | obstructed obstructed =>
    obtain ⟨message, text⟩ := not_tellsOfRoot_file obstructed
    have met : ¬ ∀ error, ¬ Obstructed tree cwd root error := fun free => free _ obstructed
    exact ⟨iff_of_false message met, iff_of_false text met⟩

end Discovery

/-! ### Runs and programs -/

section Runs

variable [Host] {tree : FileTree} {cwd : Location} {settings : Settings} {failure : Failure}
  {arguments : Arguments} {line : List Bytes} {asked : Option Bytes}

/-- A run that finds no files because its search fails. -/
theorem Conversion.MayRun.eq_of_unfound {run : Conversion.Run}
    (runs : Conversion.MayRun tree cwd settings run)
    (unfound : Discovery.candidates tree cwd settings.root settings.sources settings.tokens =
      .error failure) :
    run = ⟨tree, .error failure, Conversion.preamble tree cwd settings⟩ := by
  cases runs with
  | failed unfound' =>
    rw [unfound, Except.error.injEq] at unfound'
    rw [unfound']
  | ended found perm tells =>
    rw [unfound] at found
    cases found

namespace Program

/-- A program whose search fails changes nothing, and prints the failure and nothing else. -/
theorem MayEnd.of_unfound {report : Report} {ending : Ending}
    (ends : MayEnd tree cwd line asked report ending)
    (read : Arguments.ofList line = .ok arguments)
    (load : Settings.load tree cwd arguments = .ok settings)
    (unfound : Discovery.candidates tree cwd settings.root settings.sources settings.tokens =
      .error failure) :
    ending.status = 1 ∧ ending.tree = tree ∧ sent .output ending.notices = [] ∧
      sent .errors ending.notices = [.failed failure] := by
  cases ends with
  | stopped read' =>
    rw [read] at read'
    cases read'
  | unloaded read' load' =>
    obtain rfl := Except.ok.inj (read.symm.trans read')
    rw [load] at load'
    cases load'
  | ran read' load' runs =>
    obtain rfl := Except.ok.inj (read.symm.trans read')
    obtain rfl := Except.ok.inj (load.symm.trans load')
    rw [runs.eq_of_unfound unfound, sent_printed (by decide), sent_printed (by decide)]
    refine ⟨rfl, rfl, ?_, ?_⟩ <;>
      simp [close, Conversion.sent_preamble, Notice.channel]

/-- **A root that leads to no directory** is refused with one failure, by a search for files below
it, by every run with it and by every program that comes to it. Its message tells of the root unless
the root is obstructed. -/
theorem refused_of_astray {root : Path} (tree : FileTree) (cwd : Location) (clean : 0 ∉ root)
    (astray : ∀ home, tree.resolve cwd .look root ≠ .ok (.directory home)) :
    ∃ failure, Discovery.Refuses tree cwd root failure ∧
      (TellsOfRoot failure.message ↔ ∀ error, ¬ Obstructed tree cwd root error) ∧
      (TellsOfRoot (Notice.failed failure).text ↔ ∀ error, ¬ Obstructed tree cwd root error) ∧
      (∀ wanted tokens, Discovery.candidates tree cwd root wanted tokens = .error failure) ∧
      (∀ settings, settings.root = root →
        Conversion.MayRun tree cwd settings (Conversion.run tree cwd settings) ∧
        ∀ run, Conversion.MayRun tree cwd settings run →
          run.result = .error failure ∧ run.tree = tree ∧ sent .output run.notices = []) ∧
      ∀ line asked arguments settings, Arguments.ofList line = .ok arguments →
        Settings.load tree cwd arguments = .ok settings → settings.root = root →
          (∃ report, MayEnd tree cwd line asked report (Program.run tree cwd line asked)) ∧
          ∀ report ending, MayEnd tree cwd line asked report ending →
            ending.status = 1 ∧ ending.tree = tree ∧ sent .output ending.notices = [] ∧
              sent .errors ending.notices = [.failed failure] := by
  obtain ⟨failure, refuses, located⟩ := Discovery.exists_refuses clean astray
  have unfound := Discovery.candidates_of_locate located
  obtain ⟨message, text⟩ := refuses.tellsOfRoot_iff clean
  refine ⟨failure, refuses, message, text, unfound, ?_, ?_⟩
  · rintro settings rfl
    refine ⟨Conversion.mayRun_run tree cwd settings, fun run runs => ?_⟩
    rw [runs.eq_of_unfound (unfound _ _)]
    exact ⟨rfl, rfl, Conversion.sent_preamble (by decide)⟩
  · rintro line asked arguments settings read load rfl
    exact ⟨exists_mayEnd_run tree cwd line asked,
      fun report ending ends => ends.of_unfound read load (unfound _ _)⟩

end Program

end Runs

/-! ### A root behind a file, and one behind a link to nothing -/

namespace Program

namespace Astray

/-- A file, and a link to nothing. -/
def tree : FileTree :=
  (FileTree.empty.plant [] (Bytes.ofString "f.js") (.file [])).plant [] (Bytes.ofString "l")
    (.link (Bytes.ofString "gone"))

/-- A root behind the file. -/
def behind : Path := Bytes.ofString "f.js/x"

/-- A root that is the link. -/
def dangling : Path := Bytes.ofString "l"

theorem resolve_behind : tree.resolve [] .look behind = .error .notDirectory := by cbv

theorem exists_resolve_dangling :
    ∃ parent name, tree.resolve [] .look dangling = .ok (.vacant parent name) :=
  ⟨[], ⟨Bytes.ofString "gone", by decide⟩, by cbv⟩

theorem astray_behind (home : Location) :
    tree.resolve [] .look behind ≠ .ok (.directory home) := by
  rw [resolve_behind]
  exact nofun

theorem astray_dangling (home : Location) :
    tree.resolve [] .look dangling ≠ .ok (.directory home) := by
  obtain ⟨parent, name, vacant⟩ := exists_resolve_dangling
  rw [vacant]
  exact nofun

theorem obstructed_behind : Obstructed tree [] behind .notDirectory :=
  (FileTree.obstructed_iff (by decide)).mpr ⟨resolve_behind, by decide⟩

theorem not_obstructed_dangling (error : FileError) : ¬ Obstructed tree [] dangling error := by
  intro obstructed
  obtain ⟨parent, name, vacant⟩ := exists_resolve_dangling
  cases ((FileTree.obstructed_iff (by decide)).mp obstructed).1.symm.trans vacant

theorem ofList_behind : Arguments.ofList [behind] = .ok { directory := some "f.js/x" } := by cbv

theorem load_behind : Settings.load tree [] { directory := some "f.js/x" } =
    .ok { root := behind, tokens := Ignore.defaultTokens } := by rfl

end Astray

/-- The link to nothing is told of, in front of every run, and the root behind the file is not. -/
theorem refused_of_astray_dangling :
    (∃ failure : Failure, TellsOfRoot failure.message ∧
      Discovery.candidates Astray.tree [] Astray.dangling Script.Source.all [] = .error failure ∧
      (Conversion.run Astray.tree [] { root := Astray.dangling }).result = .error failure) ∧
    ∃ failure : Failure, ¬ TellsOfRoot failure.message ∧
      (Program.run Astray.tree [] [Astray.behind] none).status = 1 ∧
      sent .errors (Program.run Astray.tree [] [Astray.behind] none).notices =
        [.failed failure] := by
  constructor
  · obtain ⟨failure, -, message, -, unfound, runs, -⟩ :=
      refused_of_astray Astray.tree [] (by decide) Astray.astray_dangling
    obtain ⟨made, fails⟩ := runs { root := Astray.dangling } rfl
    exact ⟨failure, message.mpr Astray.not_obstructed_dangling, unfound _ _, (fails _ made).1⟩
  · obtain ⟨failure, -, message, -, -, -, programs⟩ :=
      refused_of_astray Astray.tree [] (by decide) Astray.astray_behind
    obtain ⟨⟨report, ends⟩, fails⟩ :=
      programs _ none _ _ Astray.ofList_behind Astray.load_behind rfl
    obtain ⟨status, -, -, told⟩ := fails report _ ends
    exact ⟨failure, fun tells => message.mp tells _ Astray.obstructed_behind, status, told⟩

/-- **A root behind a file** is not told of: the search for files below it fails with the error of
the system, which says neither that the root does not exist nor that it is not a directory. -/
theorem untold_below_file :
    0 ∉ Astray.behind ∧
      (∀ home, Astray.tree.resolve [] .look Astray.behind ≠ .ok (.directory home)) ∧
      Discovery.candidates Astray.tree [] Astray.behind Script.Source.all [] =
        .error (.file .notDirectory) ∧
      (Failure.file .notDirectory).message = "Not a directory (os error 20)" ∧
      ¬ TellsOfRoot (Failure.file .notDirectory).message ∧
      sent .errors (Program.run Astray.tree [] [Astray.behind] none).notices =
        [.failed (.file .notDirectory)] := by
  have located : Discovery.locate Astray.tree [] Astray.behind = .error (.file .notDirectory) := by
    rw [Discovery.locate, Astray.resolve_behind]
    rfl
  have unfound := Discovery.candidates_of_locate located
  obtain ⟨report, ends⟩ := exists_mayEnd_run Astray.tree [] [Astray.behind] none
  obtain ⟨-, -, -, told⟩ := ends.of_unfound Astray.ofList_behind Astray.load_behind (unfound _ _)
  exact ⟨by decide, Astray.astray_behind, unfound _ _, by rfl, by decide, told⟩

end Program

end Retarget
