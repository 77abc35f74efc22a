/-
**Reading a command line.**

Arguments are read from left to right. What is read for a parameter is pending until the next
parameter starts, and only then put in its place; so a fault in a value shows after the argument
that follows it has been looked at.

* `Arguments.ofList`: the arguments that a command line gives, or why there are none;
* `State.step`: one argument; behind `--` all are values, and so are all behind the first token;
* `State.settle`: what is pending is put in its place.
-/

import Retarget.Arguments.Fault
import Retarget.Path.Basic

namespace Retarget

/-- What a command line asks for. -/
structure Arguments where
  directory : Option String := none
  ignore : List String := []
  config : Option Path := none
  keepOriginals : Bool := false
  strict : Bool := false
  maxConcurrency : Option Nat := none
  verbose : Bool := false
  deriving DecidableEq, Repr

namespace Arguments

/-- Why a command line does not lead to a run. -/
inductive Stop where
  | help
  | version
  | fault (fault : Fault)
  deriving DecidableEq, Repr

/-! ### Values -/

/-- The text of a value. -/
def textOf (value : Bytes) : Except Fault String :=
  match value.toString? with
  | some text => .ok text
  | none => .error .notText

/-- The number that a value spells. -/
def countOf (value : Bytes) : Except Fault Nat :=
  match textOf value with
  | .error fault => .error fault
  | .ok text =>
    match Count.parse text.toList with
    | .ok number => .ok number
    | .error why => .error (.invalidCount text why)

/-- The arguments with a parameter put in. -/
def put (arguments : Arguments) (parameter : Parameter) (values : List Bytes) :
    Except Fault Arguments :=
  match parameter, values with
  | .directory, value :: _ =>
    (textOf value).map fun text => { arguments with directory := some text }
  | .ignore, values =>
    (values.mapM textOf).map fun tokens => { arguments with ignore := tokens }
  | .config, value :: _ =>
    if value = [] then .error (.missingValue .config)
    else .ok { arguments with config := some value }
  | .maxConcurrency, value :: _ =>
    (countOf value).map fun number => { arguments with maxConcurrency := some number }
  | .keepOriginals, _ => .ok { arguments with keepOriginals := true }
  | .strict, _ => .ok { arguments with strict := true }
  | .verbose, _ => .ok { arguments with verbose := true }
  | _, _ => .ok arguments

/-! ### The state of the reader -/

/-- How far a command line is read. -/
structure State where
  /-- What is in its place. -/
  arguments : Arguments := {}
  /-- The parameters that are in their places, in the order in which they came. -/
  given : List Parameter := []
  /-- The parameter that is being read, and its values so far. -/
  pending : Option (Parameter × List Bytes) := none
  /-- Whether a directory was read. -/
  located : Bool := false
  /-- Whether `--` was read. -/
  escaped : Bool := false

namespace State

/-- Puts a parameter in its place; only a parameter that takes a value can lack one. -/
def place (state : State) (parameter : Parameter) (values : List Bytes) : Except Fault State :=
  if parameter.takesValue ∧ values = [] then .error (.missingValue parameter)
  else if parameter ∈ state.given then .error (.repeated parameter)
  else (state.arguments.put parameter values).map fun arguments =>
    { state with arguments := arguments, given := state.given ++ [parameter] }

/-- Puts what is pending in its place. -/
def settle (state : State) : Except Fault State :=
  match state.pending with
  | none => .ok state
  | some (parameter, values) => { state with pending := none }.place parameter values

/-- The parameters that count as given when what is pending is put in its place, be it at fault or
not: a parameter that comes again takes back the first one. -/
def settledGiven (state : State) : List Parameter :=
  match state.pending with
  | none => state.given
  | some (parameter, values) =>
    if parameter.takesValue ∧ values = [] then state.given
    else if parameter ∈ state.given then state.given.erase parameter
    else state.given ++ [parameter]

/-- Reads a parameter with all its values. -/
def accept (state : State) (parameter : Parameter) (values : List Bytes) : Except Fault State :=
  state.settle.bind fun settled => settled.place parameter values

/-- Starts a parameter whose values follow. -/
def start (state : State) (parameter : Parameter) (values : List Bytes) : Except Fault State :=
  state.settle.map fun settled => { settled with pending := some (parameter, values) }

/-- Reads an argument that is the value of the option in front of it, the directory, or a token. -/
def value (state : State) (argument : Bytes) : Except Fault State :=
  match state.pending, state.escaped with
  | some (.ignore, tokens), _ =>
    .ok { state with pending := some (.ignore, tokens ++ [argument]) }
  | some (.config, []), false => .ok { state with pending := some (.config, [argument]) }
  | some (.maxConcurrency, []), false =>
    .ok { state with pending := some (.maxConcurrency, [argument]) }
  | _, _ =>
    if state.located then state.start .ignore [argument]
    else (state.start .directory [argument]).map fun next => { next with located := true }

/-- Why the reader stops at a parameter that asks for no run. -/
def request (state : State) (stop : Stop) : Except Stop State :=
  match state.settle with
  | .ok _ => .error stop
  | .error fault => .error (.fault fault)

/-- Faults stop the reader. -/
def orStop (next : Except Fault State) : Except Stop State := next.mapError .fault

/-- Reads a parameter by its name. -/
def named (state : State) (parameter : Parameter) (attached : Option Bytes) : Except Stop State :=
  match attached with
  | some text =>
    if parameter.takesValue then orStop (state.accept parameter [text])
    else .error (.fault (.unexpectedValue parameter text.shown state.given))
  | none =>
    if parameter.takesValue then orStop (state.start parameter [])
    else match parameter with
      | .help => state.request .help
      | .version => state.request .version
      | _ => orStop (state.accept parameter [])

/-- Reads an argument that starts with `--`: a name, and a value behind the first `=` if there is
one. Behind the directory an unknown name is a token. -/
def long (state : State) (argument : Bytes) : Except Stop State :=
  let body : Bytes := argument.drop 2
  let name : Bytes := body.takeWhile (· != 0x3D)
  let attached := if name.length < body.length then some (body.drop (name.length + 1)) else none
  match name.toString? with
  | none => .error (.fault (.unknownName name.shown state.settledGiven))
  | some text =>
    match Parameter.ofName? text with
    | some parameter => state.named parameter attached
    | none =>
      if state.located then orStop (state.value argument)
      else .error (.fault (.unknownName text state.settledGiven))

/-- The letters that are short for a name. -/
def isLetter (byte : UInt8) : Bool :=
  byte < 0x80 && (Parameter.ofLetter? (Char.ofNat byte.toNat)).isSome

/-- The text of an unknown letter: all that follows where no character is. -/
def letterText (letters : Bytes) : String :=
  match Utf8.pieces letters with
  | .char c :: _ => String.ofList [c]
  | _ => letters.shown

/-- Reads the letters of an argument that starts with one `-`. A letter for a parameter without a
value ends the reading, so only the first one counts; what follows a letter for a parameter with a
value is that value. Behind the directory an argument with an unknown letter is a token. -/
def short (state : State) (argument : Bytes) : Except Stop State :=
  let letters : Bytes := argument.drop 1
  if state.located ∧ ¬ letters.all isLetter then orStop (state.value argument)
  else match letters with
    | [] => orStop (state.value argument)
    | letter :: rest =>
      let known := if letter < 0x80 then Parameter.ofLetter? (Char.ofNat letter.toNat) else none
      match known with
      | none => .error (.fault (.unknownLetter (letterText letters)))
      | some parameter =>
        if parameter.takesValue = false then state.named parameter none
        else match rest with
          | [] => state.named parameter none
          | 0x3D :: text => state.named parameter (some text)
          | text => state.named parameter (some text)

/-- Whether tokens are being read. -/
def inTokens (state : State) : Bool :=
  match state.pending with
  | some (.ignore, _) => true
  | _ => false

/-- Reads one argument. -/
def step (state : State) (argument : Bytes) : Except Stop State :=
  if state.escaped ∨ state.inTokens then orStop (state.value argument)
  else match argument with
    | [0x2D, 0x2D] => .ok { state with escaped := true }
    | 0x2D :: 0x2D :: _ => state.long argument
    | 0x2D :: _ :: _ => state.short argument
    | _ => orStop (state.value argument)

end State

/-- The arguments that a command line gives. -/
def ofList (line : List Bytes) : Except Stop Arguments :=
  match line.foldlM State.step {} with
  | .error stop => .error stop
  | .ok state => (state.settle.map (·.arguments)).mapError .fault

end Arguments

end Retarget
