/-
**Which texts are regular expressions.**

The reader goes over a text once. Its state holds the groups and sets that are open, and of what is
closed only how deep it is nested. A curly bracket that opens a count is never closed, because the
texts that are read stand between curly brackets themselves.

* `State.step`: one step of the reader, which takes a character at least;
* `isExpression`: a text is an expression when every step is possible, nothing is left open and no
  part is nested too deep.
-/

import Retarget.Expression.Bracket
import Retarget.Expression.Opening

namespace Retarget.Expression

/-- An open group, or the whole expression: its mode, the parts of the branch that is being read,
the last one first, and the levels of nesting in the branches before. -/
structure Group where
  mode : Mode := {}
  parts : List Part := []
  branches : List Nat := []

namespace Group

/-- The levels of nesting in the branch that is being read. -/
def branch (group : Group) : Nat := joined (group.parts.map Part.depth)

/-- The levels of nesting in a group. -/
def depth (group : Group) : Nat := joined (group.branch :: group.branches)

/-- A group with one more part. -/
def add (group : Group) (part : Part) : Group := { group with parts := part :: group.parts }

end Group

/-- How far an expression is read. -/
structure State where
  /-- The innermost open group. -/
  group : Group := {}
  /-- The groups around it. -/
  outer : List Group := []
  /-- The sets that are open, the innermost one first. -/
  brackets : List Bracket := []
  /-- The names of groups. -/
  names : List (List Char) := []

namespace State

/-- One more part. -/
def add (state : State) (part : Part) : State := { state with group := state.group.add part }

/-- A group inside the innermost one. -/
def enter (state : State) (mode : Mode) : State :=
  { state with group := { mode := mode }, outer := state.group :: state.outer }

/-- Reads what stands behind a round bracket. -/
def openGroup (state : State) (text : List Char) : Option (State × List Char) :=
  (Opening.ofText? state.group.mode text).bind fun (opening, rest) =>
    match opening with
    | .group mode => some (state.enter mode, rest)
    | .flags mode =>
      let group := state.group.add .flags
      some ({ state with group := { group with mode := mode } }, rest)
    | .named name =>
      if state.names.contains name then none
      else some ({ state.enter state.group.mode with names := name :: state.names }, rest)

/-- Closes the innermost group. -/
def closeGroup (state : State) : Option State :=
  match state.outer with
  | [] => none
  | around :: outer =>
    some { state with group := around.add (.term (state.group.depth + 1)), outer := outer }

/-- Starts the next branch. -/
def nextBranch (state : State) : State :=
  let group := state.group
  { state with group := { group with parts := [], branches := group.branch :: group.branches } }

/-- Repeats the last part; a `?` behind the sign belongs to it. -/
def repeated (state : State) (text : List Char) : Option (State × List Char) :=
  match state.group.parts with
  | .term depth :: parts =>
    let group := { state.group with parts := .term (depth + 1) :: parts }
    some ({ state with group := group }, if text.head? = some '?' then text.drop 1 else text)
  | _ => none

/-- Opens a set inside those that are open. -/
def openBracket (state : State) (text : List Char) : Option (State × List Char) :=
  (Bracket.ofText? state.group.mode text).map fun (bracket, rest) =>
    ({ state with brackets := bracket :: state.brackets }, rest)

/-- Closes a set inside other open sets. -/
def closeBracket (state : State) (bracket : Bracket) (around : List Bracket) : State :=
  let depth := bracket.depth + 1
  match around with
  | [] => { state with brackets := [] }.add (.term depth)
  | parent :: others => { state with brackets := parent.add depth :: others }

/-- Reads a character outside of sets. -/
def stepOutside (state : State) (c : Char) (rest : List Char) : Option (State × List Char) :=
  let mode := state.group.mode
  let single := state.add (.term 0)
  match c with
  | '(' => state.openGroup rest
  | ')' => state.closeGroup.map fun next => (next, rest)
  | '|' => some (state.nextBranch, rest)
  | '[' => state.openBracket rest
  | '?' | '*' | '+' => state.repeated rest
  | '\x7b' => none
  | '.' => if mode.unicode then some (single, rest) else none
  | '\\' => (escape? mode rest).map fun (_, rest) => (single, rest)
  | _ => some (single, rest)

/-- Reads a character in a set. -/
def stepInside (state : State) (bracket : Bracket) (around : List Bracket) (c : Char)
    (rest : List Char) : Option (State × List Char) :=
  let mode := state.group.mode
  let put (next : Bracket) : State := { state with brackets := next :: around }
  let first := bracket.fresh && bracket.elements.isEmpty
  if c = '-' ∧ bracket.fresh then some (put { bracket.add 0 with fresh := true }, rest)
  else if c = ']' then
    some (if first then put (bracket.add 0) else state.closeBracket bracket around, rest)
  else if c = '[' then
    match namedSet? rest with
    | some (negated, rest) =>
      if negated && !mode.unicode then none else some (put (bracket.add 0), rest)
    | none => (put { bracket with fresh := false }).openBracket rest
  else if (c = '&' ∨ c = '-' ∨ c = '~') ∧ rest.head? = some c then
    some (put bracket.operated, rest.drop 1)
  else (element? mode (c :: rest)).map fun rest => (put (bracket.add 0), rest)

/-- Reads what starts with a character, and gives the text behind it. -/
def step (state : State) (c : Char) (rest : List Char) : Option (State × List Char) :=
  let text := state.group.mode.skip (c :: rest)
  if text.length ≤ rest.length then some (state, text)
  else match state.brackets with
    | [] => state.stepOutside c rest
    | bracket :: around => state.stepInside bracket around c rest

/-- Whether nothing is open, and no part is nested in more than 250 levels. -/
def isComplete (state : State) : Bool :=
  state.brackets.isEmpty && state.outer.isEmpty && decide (state.group.depth ≤ 250)

/-- Reads a text, less its first `skip` characters. -/
def read (state : State) : (skip : Nat) → List Char → Option State
  | _, [] => some state
  | skip + 1, _ :: rest => state.read skip rest
  | 0, c :: rest => (state.step c rest).bind fun (next, left) =>
    next.read (rest.length - left.length) rest

end State

/-- Whether a text is a regular expression. -/
def isExpression (text : List Char) : Bool :=
  (State.read {} 0 text).elim false State.isComplete

end Retarget.Expression
