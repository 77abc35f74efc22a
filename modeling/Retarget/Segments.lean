/-
**Lists cut at a separator, and stretches of lists.**

* `segments`: the parts between the separators, one more than there are separators;
* `hasStretch`: some stretch of a list is the given word.
-/

namespace Retarget

variable {α : Type} [BEq α]

/-- The parts of a list between the occurrences of `sep`. -/
def segments (sep : α) : List α → List (List α)
  | [] => [[]]
  | a :: rest =>
    if a == sep then [] :: segments sep rest
    else match segments sep rest with
      | [] => [[a]]
      | first :: others => (a :: first) :: others

/-- Whether `word` stands somewhere in the list. -/
def hasStretch (word : List α) : List α → Bool
  | [] => word.isEmpty
  | a :: rest => word.isPrefixOf (a :: rest) || hasStretch word rest

end Retarget
