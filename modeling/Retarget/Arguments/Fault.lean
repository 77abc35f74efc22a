/-
**What can be wrong with a command line.**

`Fault.message` is the text of a fault, with a tip and the usage where they help; its first line
says what is wrong. An argument that it quotes is shown without what steers a terminal.
-/

import Retarget.Arguments.Parameter
import Retarget.Text.Count
import Retarget.Text.Plain
import Retarget.Text.Similarity

namespace Retarget.Arguments

/-- What is wrong with a command line. `given` lists the parameters that were accepted before. -/
inductive Fault where
  | unknownName (name : String) (given : List Parameter)
  | unknownLetter (text : String)
  | unexpectedValue (parameter : Parameter) (value : String) (given : List Parameter)
  | missingValue (parameter : Parameter)
  | invalidCount (value : String) (why : Count.Fault)
  | repeated (parameter : Parameter)
  | notText
  deriving DecidableEq, Repr

/-- The parameters in the order of their first mention. -/
def mentions (parameters : List Parameter) : List Parameter :=
  parameters.foldl (fun seen p => if p ∈ seen then seen else seen ++ [p]) []

/-- How the program is used with the parameters `given`, or with any if there are none. -/
def usage (given : List Parameter) : String :=
  let options := (mentions given).filter (· ∈ Parameter.named)
  let shown := if given = [] then ["[OPTIONS]"] else options.map Parameter.shown
  let directory := if .directory ∈ given then Parameter.directory.shown else "[DIRECTORY]"
  " ".intercalate (["Usage: js2ts"] ++ shown ++ [directory, "[IGNORE]..."])

/-- What a run takes: all parameters but those that ask for a text instead of a run. -/
def ofRun : List Parameter :=
  [.directory, .ignore, .config, .keepOriginals, .strict, .maxConcurrency, .verbose]

/-- A parameter as one of several to choose from. -/
def choice : Parameter → String
  | .directory => "DIRECTORY"
  | .ignore => "IGNORE"
  | parameter => parameter.shown

/-- How the program is used with a parameter and with what was given before it. Once anything is
given, all that a run takes is shown as one choice, and a parameter that belongs to it is not shown
by itself. -/
def usageBeside (parameter : Parameter) (given : List Parameter) : String :=
  if given = [] then usage [parameter]
  else
    let shown := if parameter ∈ ofRun then [] else [parameter.shown]
    let choices := "<" ++ "|".intercalate (ofRun.map choice) ++ ">"
    " ".intercalate (["Usage: js2ts"] ++ shown ++ [choices])

/-- The parameter whose name is most like a text, when it is like enough. Of names that are equally
like it the last one counts. -/
def similar? (text : String) : Option Parameter :=
  let rated := Parameter.named.map fun p => (p, similarity text.toList p.name.toList)
  let best := (rated.filter fun r => r.2 > 0.7).foldl (fun best next =>
    match best with
    | none => some next
    | some top => if top.2 > next.2 then some top else some next) none
  best.map (·.1)

namespace Fault

/-- What is wrong, in one line. -/
def headline : Fault → String
  | .unknownName name _ => "error: unexpected argument '--" ++ plain name ++ "' found"
  | .unknownLetter text => "error: unexpected argument '-" ++ plain text ++ "' found"
  | .unexpectedValue parameter value _ =>
    "error: unexpected value '" ++ plain value ++ "' for '" ++ parameter.shown ++
      "' found; no more were expected"
  | .missingValue parameter =>
    "error: a value is required for '" ++ parameter.shown ++ "' but none was supplied"
  | .invalidCount value why =>
    "error: invalid value '" ++ plain value ++ "' for '" ++ Parameter.maxConcurrency.shown ++ "': " ++
      why.message
  | .repeated parameter =>
    "error: the argument '" ++ parameter.shown ++ "' cannot be used multiple times"
  | .notText => "error: invalid UTF-8 was detected in one or more arguments"

/-- How to pass an argument that looks like a parameter as a value. -/
def valueTip (argument : String) : String :=
  let shown := plain argument
  "  tip: to pass '" ++ shown ++ "' as a value, use '-- " ++ shown ++ "'"

/-- The paragraphs between the first line and the last one. -/
def advice : Fault → List String
  | .unknownName name given =>
    match similar? name with
    | some parameter =>
      ["  tip: a similar argument exists: '--" ++ parameter.name ++ "'",
        usage (given ++ [parameter])]
    | none => [valueTip ("--" ++ name), usage given]
  | .unknownLetter text => [valueTip ("-" ++ text), usage []]
  | .unexpectedValue parameter _ given => [usageBeside parameter given]
  | .missingValue _ | .invalidCount _ _ => []
  | .repeated _ | .notText => [usage []]

/-- The whole text, in paragraphs. -/
def message (fault : Fault) : String :=
  "\n\n".intercalate ([fault.headline] ++ fault.advice ++ ["For more information, try '--help'."])

end Fault

end Retarget.Arguments
