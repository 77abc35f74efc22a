/-
**The parameters of the command line.**

A directory and ignore tokens are given by their place, all else by name. Two of the named
parameters take a value; `-` and a letter is short for three of the names.
-/

namespace Retarget.Arguments

/-- What the command line may give. -/
inductive Parameter where
  | directory
  | ignore
  | config
  | keepOriginals
  | strict
  | maxConcurrency
  | verbose
  | help
  | version
  deriving DecidableEq, Repr

namespace Parameter

/-- The parameters that have a name, in the order in which they are listed. -/
def named : List Parameter :=
  [.config, .keepOriginals, .strict, .maxConcurrency, .verbose, .help, .version]

/-- The name, without the dashes in front of it. -/
def name : Parameter → String
  | .directory => "directory"
  | .ignore => "ignore"
  | .config => "config"
  | .keepOriginals => "keep-originals"
  | .strict => "strict"
  | .maxConcurrency => "max-concurrency"
  | .verbose => "verbose"
  | .help => "help"
  | .version => "version"

/-- The parameter of a name. -/
def ofName? (name : String) : Option Parameter := named.find? (·.name == name)

/-- The parameter of a letter. -/
def ofLetter? (letter : Char) : Option Parameter :=
  match letter with
  | 'c' => some .config
  | 'h' => some .help
  | 'V' => some .version
  | _ => none

/-- Whether a named parameter takes a value. -/
def takesValue : Parameter → Bool
  | .config | .maxConcurrency => true
  | _ => false

/-- A parameter as messages show it. -/
def shown : Parameter → String
  | .directory => "<DIRECTORY>"
  | .ignore => "<IGNORE>..."
  | .config => "--config <CONFIG>"
  | .maxConcurrency => "--max-concurrency <N>"
  | parameter => "--" ++ parameter.name

end Parameter

end Retarget.Arguments
