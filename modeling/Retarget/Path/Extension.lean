/-
**The extension of a path.**

A name is cut at its last dot; a dot in front of a name cuts nothing. `Path.withExtension` takes the
extension off the end of the path, byte for byte, and then puts the new one behind the stem of what
is left. What is left may end in `..`, as for `..js`: it has no stem and stays as it is.
-/

import Retarget.Path.Basic

namespace Retarget.Path

/-- A name cut at its last dot: the stem, and the extension if there is one. -/
def cutName (name : Bytes) : Bytes × Option Bytes :=
  let after := name.reverse.takeWhile (· != dot)
  let stem := name.take (name.length - (after.length + 1))
  if stem = [] then (name, none) else (stem, some after.reverse)

/-- The extension of the name that a path ends in. -/
def extension? (path : Path) : Option Bytes := path.name?.bind fun name => (cutName name).2

/-- A path with `extension`, given without its dot, behind the stem of its last name. -/
def withExtension (path : Path) (extension : Bytes) : Path :=
  let bare : Path := path.take (path.length - (path.extension?.getD []).length)
  match bare.leaf? with
  | none => bare
  | some leaf => leaf.front ++ (cutName leaf.name).1 ++ dot :: extension

end Retarget.Path
