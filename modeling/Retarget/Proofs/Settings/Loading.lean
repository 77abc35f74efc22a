/-
**Loading the settings of a command line.**

What can go wrong is looked for in a fixed order: the settings file is read, its text is taken for
settings, a directory has to be given, and at last some file has to be allowed at a time. When
nothing is wrong the settings are made of both sources, and they are well formed whatever the
sources say: the root is a cleaned path, the tokens are merged ones, and the limit is not zero.

* `Settings.FileGives`: what comes of the settings file, if one is named;
* `Settings.Loads`: what comes of a command line;
* `Settings.ofFile_eq_iff` and `Settings.load_eq_iff`: reading and loading come to that;
* `Settings.IsWellFormed`: what holds of settings that are loaded;
* `Settings.loads_wellFormed`: both together.
-/

import Mathlib
import Retarget.FileTree.Build
import Retarget.Proofs.Ignore.Merging
import Retarget.Proofs.Path.Normal
import Retarget.Settings.Basic

namespace Retarget.Settings

section Loading

variable {tree : FileTree} {cwd : Location} {arguments : Arguments} {file : FileSettings}
  {text : String}

/-! ### What comes of a command line -/

/-- What comes of the settings file that is named, if one is. -/
inductive FileGives (tree : FileTree) (cwd : Location) :
    Option Path → Except Failure FileSettings → Prop where
  /-- No file is named, and nothing is set. -/
  | unnamed : FileGives tree cwd none (.ok {})
  | unread {path : Path} {error : FileError} : tree.read cwd path = .error error →
      FileGives tree cwd (some path) (.error (.file error))
  | notText {path : Path} {content : Bytes} : tree.read cwd path = .ok content →
      Utf8.decode? content = none → FileGives tree cwd (some path) (.error (.file .notText))
  /-- The file is a text that spells no settings. -/
  | misspelled {path : Path} {content : Bytes} {text : List Char} {fault : SettingsFile.Fault} :
      tree.read cwd path = .ok content → Utf8.decode? content = some text →
        FileSettings.parse text = .error fault →
          FileGives tree cwd (some path) (.error (.settingsFile content fault))
  | spelled {path : Path} {content : Bytes} {text : List Char} {file : FileSettings} :
      tree.read cwd path = .ok content → Utf8.decode? content = some text →
        FileSettings.parse text = .ok file → FileGives tree cwd (some path) (.ok file)

/-- The limit of a command line and a file: that of the command line, if it gives one. -/
def limitOf (arguments : Arguments) (file : FileSettings) : Option Nat :=
  match arguments.maxConcurrency with
  | some limit => some limit
  | none => file.maxConcurrency

/-- What comes of a command line. All cases but the first one need a settings file that is in order,
and the last two need a directory. -/
inductive Loads (tree : FileTree) (cwd : Location) (arguments : Arguments) :
    Except Failure Settings → Prop where
  | misread {failure : Failure} : FileGives tree cwd arguments.config (.error failure) →
      Loads tree cwd arguments (.error failure)
  /-- No directory is given. -/
  | undirected {file : FileSettings} : FileGives tree cwd arguments.config (.ok file) →
      (arguments.directory = none ∨ arguments.directory = some "") →
        Loads tree cwd arguments (.error .noDirectory)
  /-- No file is allowed at a time. -/
  | stalled {file : FileSettings} {text : String} : FileGives tree cwd arguments.config (.ok file) →
      arguments.directory = some text → text ≠ "" → limitOf arguments file = some 0 →
        Loads tree cwd arguments (.error (.settings "maxConcurrency must be at least 1"))
  | merged {file : FileSettings} {text : String} : FileGives tree cwd arguments.config (.ok file) →
      arguments.directory = some text → text ≠ "" → limitOf arguments file ≠ some 0 →
        Loads tree cwd arguments (.ok
          { root := Path.clean (Bytes.ofString text)
            sources := Script.Source.all
            tokens := Ignore.merge (arguments.ignore ++ file.ignore)
            keepOriginals := arguments.keepOriginals || file.keepOriginals
            strict := arguments.strict || file.strict
            maxConcurrency := limitOf arguments file })

/-! ### The settings file -/

theorem fileGives_ofFile (tree : FileTree) (cwd : Location) (config : Option Path) :
    FileGives tree cwd config (ofFile tree cwd config) := by
  cases config with
  | none => exact .unnamed
  | some path =>
    rw [ofFile, FileTree.readText]
    cases read : tree.read cwd path with
    | error error => exact .unread read
    | ok content =>
      dsimp only
      cases decoded : Utf8.decode? content with
      | none => exact .notText read decoded
      | some text =>
        dsimp only
        cases parsed : FileSettings.parse text with
        | error fault => exact .misspelled read decoded parsed
        | ok file => exact .spelled read decoded parsed

/-- **The settings file** gives what is read of it, and nothing else. -/
theorem ofFile_eq_iff {config : Option Path} {result : Except Failure FileSettings} :
    ofFile tree cwd config = result ↔ FileGives tree cwd config result := by
  constructor
  · rintro rfl
    exact fileGives_ofFile tree cwd config
  · intro gives
    cases gives with
    | unnamed => rfl
    | unread read => rw [ofFile, FileTree.readText, read]
    | notText read decoded => simp only [ofFile, FileTree.readText, read, decoded]
    | misspelled read decoded parsed | spelled read decoded parsed =>
      simp only [ofFile, FileTree.readText, read, decoded, parsed, Except.mapError]

/-! ### Both sources -/

theorem or_eq_limitOf (arguments : Arguments) (file : FileSettings) :
    arguments.maxConcurrency.or file.maxConcurrency = limitOf arguments file := by
  unfold limitOf
  cases arguments.maxConcurrency <;> rfl

theorem merge_undirected (none : arguments.directory = none ∨ arguments.directory = some "") :
    merge arguments file = .error .noDirectory := by
  unfold merge
  rcases none with none | empty
  · rw [none]
  · rw [empty]
    rfl

theorem merge_directed (given : arguments.directory = some text) (nonempty : text ≠ "") :
    merge arguments file =
      if limitOf arguments file = some 0 then .error (.settings "maxConcurrency must be at least 1")
      else .ok
        { root := Path.clean (Bytes.ofString text)
          tokens := Ignore.merge (arguments.ignore ++ file.ignore)
          keepOriginals := arguments.keepOriginals || file.keepOriginals
          strict := arguments.strict || file.strict
          maxConcurrency := limitOf arguments file } := by
  unfold merge
  rw [given]
  split
  · next absent => cases absent
  · next empty => exact absurd (Option.some.inj empty) nonempty
  · next same =>
    cases same
    dsimp only
    rw [or_eq_limitOf]

/-- **Merging** comes to what loading comes to with a settings file that is in order. -/
theorem loads_merge (gives : FileGives tree cwd arguments.config (.ok file)) :
    Loads tree cwd arguments (merge arguments file) := by
  cases given : arguments.directory with
  | none =>
    rw [merge_undirected (.inl given)]
    exact .undirected gives (.inl given)
  | some text =>
    by_cases empty : text = ""
    · subst empty
      rw [merge_undirected (.inr given)]
      exact .undirected gives (.inr given)
    · rw [merge_directed given empty]
      split
      · next stalled => exact .stalled gives given empty stalled
      · next allowed => exact .merged gives given empty allowed

theorem load_of_gives {result : Except Failure FileSettings}
    (gives : FileGives tree cwd arguments.config result) :
    load tree cwd arguments = result.bind (merge arguments) := by
  rw [load, ofFile_eq_iff.mpr gives]

/-- **Loading** comes to what the cases say. -/
theorem load_eq_iff {result : Except Failure Settings} :
    load tree cwd arguments = result ↔ Loads tree cwd arguments result := by
  constructor
  · rintro rfl
    have gives := fileGives_ofFile tree cwd arguments.config
    rw [load_of_gives gives]
    cases read : ofFile tree cwd arguments.config with
    | error failure => exact .misread (read ▸ gives)
    | ok file => exact loads_merge (read ▸ gives)
  · intro loads
    cases loads with
    | misread gives => exact load_of_gives gives
    | undirected gives none => exact (load_of_gives gives).trans (merge_undirected none)
    | stalled gives given nonempty stalled =>
      exact (load_of_gives gives).trans ((merge_directed given nonempty).trans (if_pos stalled))
    | merged gives given nonempty allowed =>
      exact (load_of_gives gives).trans ((merge_directed given nonempty).trans (if_neg allowed))

/-! ### Settings that are loaded -/

/-- What holds of all settings that are loaded. -/
structure IsWellFormed (settings : Settings) : Prop where
  nonempty : settings.root ≠ []
  normal : settings.root.IsNormal
  cleaned : settings.root.clean = settings.root
  defaults : Ignore.defaultTokens <+: settings.tokens
  filled : "" ∉ settings.tokens
  distinct : settings.tokens.Nodup
  allowed : settings.maxConcurrency ≠ some 0

theorem Loads.isWellFormed {settings : Settings} (loads : Loads tree cwd arguments (.ok settings)) :
    settings.IsWellFormed := by
  cases loads with
  | @merged file text _ _ _ allowed =>
    have tidy := Ignore.isTidy_merge (arguments.ignore ++ file.ignore)
    exact ⟨Path.clean_ne_nil _, Path.isNormal_clean _, Path.clean_clean _, tidy.defaults,
      tidy.filled, tidy.distinct, allowed⟩

/-- **Loading settings** comes to what the cases say, and settings that are loaded are well
formed. -/
theorem loads_wellFormed (tree : FileTree) (cwd : Location) (arguments : Arguments) :
    (∀ result, load tree cwd arguments = result ↔ Loads tree cwd arguments result) ∧
      ∀ settings, load tree cwd arguments = .ok settings → settings.IsWellFormed :=
  ⟨fun _ => load_eq_iff, fun _ loaded => (load_eq_iff.mp loaded).isWellFormed⟩

end Loading

namespace Layered

/-- A settings file with a limit of its own and with tokens that the command line gives as well. -/
def tree : FileTree :=
  FileTree.empty.plant [] (Bytes.ofString "c.json")
    (.file (Bytes.ofString "\x7b\"ignore\": [\"tmp\", \"\", \"old\"], \"maxConcurrency\": 0\x7d"))

def arguments : Arguments where
  directory := some "./src//../../lib/"
  ignore := ["dist", "tmp"]
  config := some (Bytes.ofString "c.json")
  maxConcurrency := some 2

def settings : Settings where
  root := Bytes.ofString "../lib"
  tokens := ["node_modules", "dist", "build", "out", "tmp", "old"]
  maxConcurrency := some 2

theorem load_arguments : load tree [] arguments = .ok settings := by cbv

end Layered

/-- A directory above the working directory, tokens from both sources, and a limit that takes the
place of the one of the file. -/
theorem loads_wellFormed_layered :
    load Layered.tree [] Layered.arguments = .ok Layered.settings ∧
      Layered.settings.IsWellFormed :=
  ⟨Layered.load_arguments, (loads_wellFormed Layered.tree [] Layered.arguments).2 Layered.settings
    Layered.load_arguments⟩

end Retarget.Settings
