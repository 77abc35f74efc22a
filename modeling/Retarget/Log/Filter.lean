/-
**Which events are logged.**

A filter is a list of directives with `,` between them. The directive that says most decides: the
one with the longest origin, and then the one with the most fields.

* `Filter.parse?`: the filter that a text spells;
* `Filter.admits`: whether an event is logged.
-/

import Retarget.Log.Directive

namespace Retarget.Log

/-- A list of directives. -/
structure Filter where
  directives : List Directive

namespace Filter

/-- The filter that a text spells. Nothing between two commas is no directive. -/
def parse? (text : String) : Option Filter :=
  let parts := (segments ',' text.toList).filter (!·.isEmpty)
  (parts.mapM Directive.parse?).map Filter.mk

/-- The directive that decides on an event: of those that concern it the last one of those that say
most. -/
def deciding? (filter : Filter) (event : Event) : Option Directive :=
  (filter.directives.filter (·.concerns event)).foldl (fun best next =>
    match best with
    | none => some next
    | some top => if next.atLeast top then some next else some top) none

/-- Whether an event is logged; without any directive errors are. -/
def admits (filter : Filter) (event : Event) : Bool :=
  let level := match filter.directives with
    | [] => Level.error
    | _ => (filter.deciding? event).elim .off Directive.level
  decide (event.level.rank ≤ level.rank)

/-- The filter of a run: the one that is asked for, when it can be read, and otherwise warnings, or
all that a verbose run tells. -/
def ofRun (asked : Option Bytes) (verbose : Bool) : Filter :=
  match asked.bind fun bytes => bytes.toString?.bind parse? with
  | some filter => filter
  | none =>
    if verbose then ⟨[{ origin := some "js2ts".toList, level := .debug }]⟩
    else ⟨[{ level := .warn }]⟩

end Filter

end Retarget.Log
