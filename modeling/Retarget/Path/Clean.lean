/-
**Cleaning a path.**

`Path.clean` removes empty segments and `.`, and lets `..` take back the name before it, without a
look at any file: `..` stays where no name precedes it, and disappears behind `/`. A path of which
nothing is left becomes `.`.
-/

import Retarget.Path.Basic

namespace Retarget.Path

/-- Reads one component onto those kept so far, innermost first. -/
def keep (kept : List Component) : Component → List Component
  | .here => kept
  | .up => match kept with
    | .root :: _ => kept
    | .name _ :: outer => outer
    | _ => .up :: kept
  | part => part :: kept

/-- The cleaned path. -/
def clean (path : Path) : Path :=
  match path.components.foldl keep [] with
  | [] => [dot]
  | kept => render kept.reverse

end Retarget.Path
