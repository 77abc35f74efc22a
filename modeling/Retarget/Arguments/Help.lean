/-
**The texts that the command line may ask for.**
-/

import Retarget.Arguments.Reader

namespace Retarget.Arguments

/-- The line of a parameter in the help: its names and what it does. -/
def helpLine (names what : String) : String :=
  "  " ++ names ++ String.ofList (List.replicate (27 - names.length) ' ') ++ what

/-- The help. -/
def helpText : String :=
  "\n".intercalate
    [ "Rename .js/.jsx files to .ts/.tsx",
      "",
      usage [],
      "",
      "Arguments:",
      "  [DIRECTORY]  Directory to scan",
      "  [IGNORE]...  Extra ignore patterns, added to node_modules, dist, build and out",
      "",
      "Options:",
      helpLine "-c, --config <CONFIG>" "JSON config file",
      helpLine "    --keep-originals" "Copy to the new extension without deleting the original",
      helpLine "    --strict" "Exit with status 1 if any file fails to convert",
      helpLine "    --max-concurrency <N>" "Maximum number of files converted at the same time",
      helpLine "    --verbose" "",
      helpLine "-h, --help" "Print help",
      helpLine "-V, --version" "Print version" ]

/-- The version. -/
def versionText : String := "js2ts 0.1.0"

namespace Stop

/-- Whether something is wrong with the command line. -/
def isFault : Stop → Bool
  | .help | .version => false
  | .fault _ => true

def text : Stop → String
  | .help => helpText
  | .version => versionText
  | .fault why => why.message

end Stop

end Retarget.Arguments
