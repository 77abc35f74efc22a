/-
**The directives of a log filter.**

A directive `origin[span{field}]=level` sets the level of the events from an origin, and every
part of it may be missing. A field is a name, or a name and a value with `=` between them; a value is
a number or a regular expression. A directive for a span, or for the value of a field, concerns no
event.

* `Directive.parse?`: the directive that a text spells;
* `Directive.concerns`: whether it concerns an event;
* `Directive.atLeast`: whether it says at least as much as another.
-/

import Retarget.Decimal.Numeral
import Retarget.Expression.Reader
import Retarget.Log.Event
import Retarget.Text.Alphanumeric
import Retarget.Text.Count

namespace Retarget.Log

/-- The level that a text names, by a number or by a word in any case. -/
def Level.ofText? (text : List Char) : Option Level :=
  match Count.parse text with
  | .ok number => Level.all.find? (·.rank == number)
  | .error _ => Level.all.find? (·.name.toList == text.map Char.toUpper)

/-- A field that a directive asks for. -/
structure Field where
  name : List Char
  valued : Bool

/-- The field that a text spells: what stands in front of the first `=` is its name, and what stands
behind that, up to the next one, its value. -/
def Field.parse? (text : List Char) : Option Field :=
  match segments '=' text with
  | name :: value :: _ =>
    if Decimal.isNumeral value || Expression.isExpression value then some ⟨name, true⟩ else none
  | _ => some ⟨text, false⟩

/-- A part of a filter. -/
structure Directive where
  origin : Option (List Char) := none
  span : Option (List Char) := none
  fields : List Field := []
  level : Level := .trace

/-- What of a directive is being read; a part of open length has a start. -/
inductive Directive.Part where
  | front
  | word (start : Nat)
  | span (start : Nat)
  | field (start : Nat)
  | afterField
  | afterSpan
  | level (start : Nat)
  deriving DecidableEq

namespace Directive

/-- A word without a level behind it: a level for all events, or an origin for all levels. -/
def ofWord (word : List Char) : Directive :=
  match Level.ofText? word with
  | some level => { level := level }
  | none => { origin := some word }

/-- The directive of a level behind `=`; nothing stands for the most. -/
def withLevel? (directive : Directive) (text : List Char) : Option Directive :=
  if text = [] then some { directive with level := .trace }
  else (Level.ofText? text).map fun level => { directive with level := level }

/-- Letters and digits, `-`, `:` and `_` may start a directive. -/
def opens (c : Char) : Bool := isAlphanumeric c || c == '-' || c == ':' || c == '_'

/-! ### Places

A place in a text is the number of bytes in front of it. -/

/-- The text from a place on, when no character lies across it. -/
def from? : (place : Nat) → List Char → Option (List Char)
  | 0, text => some text
  | _, [] => none
  | place, c :: rest => if c.utf8Size ≤ place then from? (place - c.utf8Size) rest else none

/-- The text up to a place, when no character lies across it. -/
def upTo? : (place : Nat) → List Char → Option (List Char)
  | 0, _ => some []
  | _, [] => none
  | place, c :: rest =>
    if c.utf8Size ≤ place then (upTo? (place - c.utf8Size) rest).map (c :: ·) else none

/-- The text between two places. -/
def cut? (text : List Char) (start stop : Nat) : Option (List Char) :=
  (from? start text).bind (upTo? (stop - start))

/-! ### Reading -/

/-- Reads one character. Its place is counted behind the white space in front of the text, and the
parts are cut at such places from the text with that white space. -/
def step (text : List Char) (state : Part × Directive) (c : Char) (place : Nat) :
    Option (Part × Directive) :=
  let (part, directive) := state
  match part with
  | .front =>
    if c = '[' then some (.span (place + 1), directive)
    else if opens c then some (.word place, directive)
    else none
  | .word start =>
    if c ≠ '=' ∧ c ≠ '[' then some state
    else (cut? text start place).map fun origin =>
      (if c = '=' then .level (place + 1) else .span (place + 1),
        { directive with origin := some origin })
  | .span start =>
    if c = ']' then (cut? text start place).map fun name =>
      (.afterSpan, { directive with span := some name })
    else if c = '\x7b' then (cut? text start place).map fun name =>
      (.field (place + 1), { directive with span := if name = [] then none else some name })
    else some state
  | .field start =>
    if c ≠ '\x7d' then some state
    else (cut? text start place).bind fun field =>
      if field = [] then none
      else (Field.parse? field).map fun field =>
        (.afterField, { directive with fields := directive.fields ++ [field] })
  | .afterField => if c = ']' then some (.afterSpan, directive) else none
  | .afterSpan => if c = '=' then some (.level (place + 1), directive) else none
  | .level _ => some state

/-- A text without white space at its ends. -/
def trim (text : List Char) : List Char :=
  ((text.dropWhile isBlank).reverse.dropWhile isBlank).reverse

/-- Reads a text from a place on. -/
def read (text : List Char) (state : Part × Directive) (place : Nat) :
    List Char → Option (Part × Directive)
  | [] => some state
  | c :: rest =>
    (step text state c place).bind fun next => read text next (place + c.utf8Size) rest

/-- The directive that a text spells. -/
def parse? (text : List Char) : Option Directive :=
  (read text (.front, {}) 0 (trim text)).bind fun (part, directive) =>
    match part with
    | .word start => (from? start text).map ofWord
    | .level start => (from? start text).bind directive.withLevel?
    | .afterSpan => some directive
    | _ => none

/-! ### What a directive says -/

/-- Whether a directive can concern an event: it names neither a span nor the value of a field. -/
def concernsEvents (directive : Directive) : Bool :=
  directive.span.isNone && directive.fields.all fun field => !field.valued

/-- Whether a directive concerns an event. -/
def concerns (directive : Directive) (event : Event) : Bool :=
  directive.concernsEvents &&
    (directive.origin.getD []).isPrefixOf event.origin.toList &&
    directive.fields.all fun field => event.fields.contains (String.ofList field.name)

/-- How much a directive says: whether it has an origin and how long that is, and its fields. -/
def weight (directive : Directive) : Nat × Nat × List (List Char) :=
  (directive.origin.elim 0 fun origin => origin.length + 1, directive.fields.length,
    directive.fields.map Field.name)

/-- Whether a list of fields does not come after another, by the letters of each field. -/
def fieldsBefore (first second : List (List Char)) : Bool := !decide (second < first)

/-- Whether a directive says at least as much as another. -/
def atLeast (first second : Directive) : Bool :=
  let (origin, count, fields) := first.weight
  let (origin', count', fields') := second.weight
  decide (origin' < origin) || (origin' == origin &&
    (decide (count' < count) || (count' == count && fieldsBefore fields' fields)))

end Directive

end Retarget.Log
