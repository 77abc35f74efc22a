/-
**Script files and their targets.**

A source file ends in `.js` or `.jsx`, and its target in `.ts` or `.tsx`.

* `Script.Source.ofPath?`: which of the wanted sources a path names;
* `Script.Source.target`: the target of a source, which for `.js` depends on its content;
* `Script.destination`: the path that the target is written to.
-/

import Retarget.Markup
import Retarget.Path.Extension

namespace Retarget.Script

/-- The kinds of file that are converted. -/
inductive Source where
  | js
  | jsx
  deriving DecidableEq, Repr

/-- The kinds of file that are written. -/
inductive Target where
  | ts
  | tsx
  deriving DecidableEq, Repr

/-- The ending with its dot. -/
def Source.suffix : Source → String
  | .js => ".js"
  | .jsx => ".jsx"

/-- The source in the text of settings. -/
def Source.label : Source → String
  | .js => "Js"
  | .jsx => "Jsx"

/-- The ending without its dot. -/
def Target.extension : Target → String
  | .ts => "ts"
  | .tsx => "tsx"

/-- The ending with its dot. -/
def Target.suffix (target : Target) : String := "." ++ target.extension

/-- All sources, in the order in which they are listed. -/
def Source.all : List Source := [.js, .jsx]

/-- Whether a file name is a nonempty stem and then the ending of a source. -/
def Source.ends (source : Source) (name : Bytes) : Bool :=
  let suffix := Bytes.ofString source.suffix
  decide (suffix.length < name.length) && suffix.isSuffixOf name

/-- The first source of a list that a path names. A name that is no text names none. -/
def Source.firstOf? (sources : List Source) (path : Path) : Option Source := do
  let name ← path.name?
  guard (Utf8.decode? name).isSome
  sources.find? (·.ends name)

/-- The sources with longer endings first; those with endings of one length stay in their order. -/
def Source.longestFirst (sources : List Source) : List Source :=
  sources.mergeSort fun first second =>
    decide (second.suffix.utf8ByteSize ≤ first.suffix.utf8ByteSize)

/-- The wanted source that a path names. Longer endings are tried first, so that none is taken for
one that it ends in. -/
def Source.ofPath? (wanted : List Source) (path : Path) : Option Source :=
  firstOf? (longestFirst wanted) path

/-- Only the name of a path counts. -/
theorem Source.ofPath?_congr_name {wanted : List Source} {path path' : Path}
    (same : path.name? = path'.name?) :
    Source.ofPath? wanted path = Source.ofPath? wanted path' := by
  rw [Source.ofPath?, Source.ofPath?, Source.firstOf?, Source.firstOf?, same]

/-- A `.jsx` file becomes `.tsx`; a `.js` file does when its content looks like markup. -/
def Source.target (source : Source) (content : List Char) : Target :=
  match source with
  | .jsx => .tsx
  | .js => if hasMarkup content then .tsx else .ts

/-- A path with the ending of the target in the place of its last extension. -/
def destination (path : Path) (target : Target) : Path :=
  path.withExtension (Bytes.ofString target.extension)

end Retarget.Script
