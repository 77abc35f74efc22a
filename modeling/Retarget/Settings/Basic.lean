/-
**The settings of a run.**

Settings come from the command line and from a settings file.

* `Settings.merge`: the two together, with the value of the command line first;
* `Settings.load`: the settings of a command line, with the file that it names.
-/

import Retarget.Arguments.Reader
import Retarget.Failure
import Retarget.FileTree.Access
import Retarget.Ignore
import Retarget.Path.Clean
import Retarget.Script
import Retarget.Settings.File

namespace Retarget

/-- The settings of a run. -/
structure Settings where
  /-- The directory whose files are converted. -/
  root : Path
  /-- The kinds of file that are converted. -/
  sources : List Script.Source := Script.Source.all
  /-- The tokens that exclude paths. -/
  tokens : List String := []
  /-- Whether a converted file stays beside the new one. -/
  keepOriginals : Bool := false
  /-- Whether a file that cannot be converted fails the run. -/
  strict : Bool := false
  /-- How many files may be under way at a time. -/
  maxConcurrency : Option Nat := none
  deriving DecidableEq

namespace Settings

/-- Items in brackets. -/
def listText (items : List String) : String := "[" ++ ", ".intercalate items ++ "]"

def flagText (flag : Bool) : String := if flag then "true" else "false"

/-- All settings in one line, for the log. -/
def text (settings : Settings) : String :=
  let fields :=
    [ ("root", Quoted.path settings.root),
      ("extensions", listText (settings.sources.map Script.Source.label)),
      ("ignore_patterns", listText (settings.tokens.map Quoted.string)),
      ("keep_originals", flagText settings.keepOriginals),
      ("strict", flagText settings.strict),
      ("max_concurrency", match settings.maxConcurrency with
        | none => "None"
        | some limit => "Some(" ++ Nat.repr limit ++ ")") ]
  "Config \x7b " ++ ", ".intercalate (fields.map fun field => field.1 ++ ": " ++ field.2) ++ " \x7d"

/-- The settings of a command line and a file. A directory has to be given, and at least one file
has to be allowed at a time. -/
def merge (arguments : Arguments) (file : FileSettings) : Except Failure Settings :=
  match arguments.directory with
  | none | some "" => .error .noDirectory
  | some directory =>
    let limit := arguments.maxConcurrency.or file.maxConcurrency
    if limit = some 0 then .error (.settings "maxConcurrency must be at least 1")
    else .ok
      { root := Path.clean (Bytes.ofString directory)
        tokens := Ignore.merge (arguments.ignore ++ file.ignore)
        keepOriginals := arguments.keepOriginals || file.keepOriginals
        strict := arguments.strict || file.strict
        maxConcurrency := limit }

/-- What the settings file that a command line names says; nothing if it names none. -/
def ofFile (tree : FileTree) (cwd : Location) : Option Path → Except Failure FileSettings
  | none => .ok {}
  | some path =>
    match tree.readText cwd path with
    | .error error => .error (.file error)
    | .ok (content, text) => (FileSettings.parse text).mapError (.settingsFile content)

/-- The settings of a command line. -/
def load (tree : FileTree) (cwd : Location) (arguments : Arguments) : Except Failure Settings :=
  (ofFile tree cwd arguments.config).bind (merge arguments)

end Settings

end Retarget
