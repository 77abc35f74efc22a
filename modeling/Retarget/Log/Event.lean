/-
**What the log can tell.**

Each event has a level, a source in dotted form and named fields, by which a filter selects it, and
a text.
-/

import Retarget.Conversion.Basic
import Retarget.Settings.Basic

namespace Retarget.Log

/-- How much a part of the log tells: `off` tells nothing and `trace` everything. -/
inductive Level where
  | off
  | error
  | warn
  | info
  | debug
  | trace
  deriving DecidableEq, Repr

namespace Level

/-- The place of a level among all levels. -/
def rank : Level → Nat
  | .off => 0
  | .error => 1
  | .warn => 2
  | .info => 3
  | .debug => 4
  | .trace => 5

def name : Level → String
  | .off => "OFF"
  | .error => "ERROR"
  | .warn => "WARN"
  | .info => "INFO"
  | .debug => "DEBUG"
  | .trace => "TRACE"

def all : List Level := [.off, .error, .warn, .info, .debug, .trace]

end Level

/-- What happens in a run, apart from what is printed. -/
inductive Event where
  | starting (settings : Settings)
  | candidate (candidate : Candidate)
  /-- A token excludes a file. -/
  | excluded (path : Path)
  /-- An entry is passed over because its name is hidden. -/
  | hidden (path : Path)
  | classified (path : Path) (target : Script.Target)
  | failed (file : Unconverted)

namespace Event

def level : Event → Level
  | .starting _ => .info
  | _ => .debug

/-- The part of the program that an event comes from. -/
def origin : Event → String
  | .starting _ | .classified _ _ | .failed _ => "js2ts::convert"
  | .candidate _ | .excluded _ => "js2ts::discover"
  | .hidden _ => "ignore::walk"

/-- The names of the fields of an event. -/
def fields : Event → List String
  | .starting _ => ["message", "config"]
  | .candidate _ => ["message", "path", "extension"]
  | .excluded _ => ["message", "path"]
  | .hidden _ => ["message", "log.target", "log.module_path", "log.file", "log.line"]
  | .classified _ _ => ["message", "path", "target"]
  | .failed _ => ["message", "path", "stage"]

/-- A character of a text that the log takes over: one with which a terminal could be steered is
spelled out. -/
def tame (c : Char) : List Char :=
  let code := c.toNat
  if c ∈ ['\x07', '\x08', '\x0c', '\x1b', '\x7f'] then
    ['\\', 'x'] ++ (if code < 16 then ['0'] else []) ++ Nat.toDigits 16 code
  else if 0x80 ≤ code ∧ code ≤ 0x9F then Quoted.codePoint c
  else [c]

/-- What an event says. -/
def message : Event → String
  | .starting settings => "starting conversion config=" ++ settings.text
  | .candidate file =>
    "candidate path=" ++ file.path.shown ++ " extension=" ++ file.source.suffix
  | .excluded path => "ignored path=" ++ path.shown
  | .hidden path =>
    "ignoring " ++ String.ofList (path.shown.toList.flatMap tame) ++ ": Ignore(IgnoreMatch(Hidden))"
  | .classified path target =>
    "classified path=" ++ path.shown ++ " target=" ++ target.suffix
  | .failed file =>
    "conversion failed path=" ++ file.path.shown ++ " stage=" ++ file.stage.text

/-- The line of an event: its level and what it says. -/
def text (event : Event) : String := event.level.name ++ " " ++ event.message

end Event

end Retarget.Log
