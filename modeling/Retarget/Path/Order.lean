/-
**The order of paths.**

Paths are in the order of their lists of components: `/` before `.` before `..` before all names,
and names by their bytes. Two paths of the same components are not told apart.

* `Path.before`: whether a path does not come after another;
* `Path.before_total`, `Path.before_trans` and `Path.components_eq_of_before`: the order is linear on
  components.
-/

import Retarget.Path.Basic

namespace Retarget.Path

/-- What a component is ordered by. -/
def Component.rank : Component → List Nat
  | .root => [0]
  | .here => [1]
  | .up => [2]
  | .name bytes => 3 :: bytes.map UInt8.toNat

theorem Component.rank_injective {first second : Component} (same : first.rank = second.rank) :
    first = second := by
  cases first <;> cases second <;> simp_all [Component.rank]
  exact List.map_inj_right (fun _ _ => UInt8.toNat.inj) |>.mp same

/-- What a path is ordered by. -/
def ranks (path : Path) : List (List Nat) := path.components.map Component.rank

/-- Whether a path does not come after another. -/
def before (first second : Path) : Bool := !decide (second.ranks < first.ranks)

theorem before_iff {first second : Path} :
    first.before second = true ↔ ¬ second.ranks < first.ranks := by
  rw [before, Bool.not_eq_true', decide_eq_false_iff_not]

theorem before_total (first second : Path) :
    first.before second = true ∨ second.before first = true := by
  rw [before_iff, before_iff, List.not_lt, List.not_lt]
  exact List.le_total _ _

theorem before_trans {first second third : Path} (there : first.before second = true)
    (further : second.before third = true) : first.before third = true := by
  rw [before_iff, List.not_lt] at *
  exact List.le_trans there further

/-- **Paths that come before each other have the same components.** -/
theorem components_eq_of_before {first second : Path} (there : first.before second = true)
    (back : second.before first = true) : first.components = second.components := by
  rw [before_iff, List.not_lt] at there back
  exact (List.map_inj_right fun _ _ => Component.rank_injective).mp (List.le_antisymm there back)

end Retarget.Path
