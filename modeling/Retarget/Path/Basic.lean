/-
**Paths.**

A path is a byte sequence with `/` between its segments. Its components leave out empty segments
and, except in front, the segment `.`.

* `Path.components` and `Path.render`: a path as components, and the path of some components;
* `Path.leaf?`: the last component with the text before and behind it, when it is a name;
* `Path.under`: a name put below a path.
-/

import Retarget.Segments
import Retarget.Text.Utf8

namespace Retarget

abbrev Path := Bytes

namespace Path

/-- The byte of `/`. -/
def slash : UInt8 := 0x2F

/-- The byte of `.`. -/
def dot : UInt8 := 0x2E

/-- A component of a path. -/
inductive Component where
  /-- The `/` in front. -/
  | root
  /-- A `.` in front. -/
  | here
  /-- A `..`. -/
  | up
  | name (bytes : Bytes)
  deriving DecidableEq, Repr

/-- The component that a segment behind the first one gives, if any. -/
def Component.ofSegment? (segment : Bytes) : Option Component :=
  if segment = [] ∨ segment = [dot] then none
  else if segment = [dot, dot] then some .up
  else some (.name segment)

/-- What a path starts with: `/`, `.`, or its first segment. -/
def Component.ofFront? (path : Path) (first : Bytes) : Option Component :=
  if first = [] then if path = [] then none else some .root
  else if first = [dot] then some .here
  else Component.ofSegment? first

/-- The components of a path. -/
def components (path : Path) : List Component :=
  match segments slash path with
  | [] => []
  | first :: rest =>
    (Component.ofFront? path first).toList ++ rest.filterMap Component.ofSegment?

/-- A name put below a path. -/
def under (parent : Path) (name : Bytes) : Path :=
  if parent = [] ∨ parent.getLast? = some slash then parent ++ name else parent ++ slash :: name

def Component.text : Component → Bytes
  | .root => [slash]
  | .here => [dot]
  | .up => [dot, dot]
  | .name bytes => bytes

/-- The path of some components, outermost first. -/
def render (parts : List Component) : Path :=
  parts.foldl (fun path part => path.under part.text) []

/-- The last component of a path that ends in a name, with what stands before and behind it. -/
structure Leaf where
  front : Path
  name : Bytes
  trail : Bytes
  deriving DecidableEq, Repr

/-- A reversed path without the `/` and `/.` it ends in. -/
def dropTrail : Bytes → Bytes
  | 0x2F :: rest => dropTrail rest
  | 0x2E :: 0x2F :: rest => dropTrail rest
  | path => path

/-- The name that a path ends in; none for a path that ends in `..` or holds no name. -/
def leaf? (path : Path) : Option Leaf :=
  let bare := dropTrail path.reverse
  let name := (bare.takeWhile (· != slash)).reverse
  if name = [] ∨ name = [dot] ∨ name = [dot, dot] then none
  else some
    { front := (bare.dropWhile (· != slash)).reverse
      name := name
      trail := path.drop bare.length }

/-- The last component of a path, when it is a name. -/
def name? (path : Path) : Option Bytes := path.leaf?.map (·.name)

end Path

end Retarget
