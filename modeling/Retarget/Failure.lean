/-
**Why a run fails.**

A failure ends the whole run, unlike a file that cannot be converted. `Failure.message` is its text.
-/

import Retarget.FileTree.Error
import Retarget.Path.Basic
import Retarget.Settings.Fault

namespace Retarget

/-- Why a run fails. -/
inductive Failure where
  /-- No directory is given. -/
  | noDirectory
  /-- The directory to convert does not exist. -/
  | missing (root : Path)
  /-- The directory to convert is something else. -/
  | notDirectory (root : Path)
  /-- A file operation before any file is converted fails. -/
  | file (error : FileError)
  /-- A directory below the root cannot be listed. -/
  | unlisted (directory : Path) (error : FileError)
  /-- The settings file, whose content is given, is not as it should be. -/
  | settingsFile (content : Bytes) (fault : SettingsFile.Fault)
  /-- The settings do not make sense. -/
  | settings (why : String)
  /-- Some files were not converted, and all have to be. -/
  | unconverted (count : Nat)

def Failure.message : Failure → String
  | .noDirectory => "Please provide a directory path."
  | .missing root => "The provided path does not exist: " ++ root.shown
  | .notDirectory root => "The provided path is not a directory: " ++ root.shown
  | .file error => error.message
  | .unlisted directory error =>
    "Failed to walk directory: " ++ directory.shown ++ ": IO error for operation on " ++
      directory.shown ++ ": " ++ error.message
  | .settingsFile content fault => "Failed to parse config file: " ++ fault.message content
  | .settings why => "Invalid config: " ++ why
  | .unconverted count => Nat.repr count ++ " file(s) failed to convert"

end Retarget
