/-
**Where a path arrives.**

A walk that succeeds passes directories and links only, and its last step arrives at a directory or
at a name in one. So it arrives at the same directory or the same name in all trees of the frame,
for every purpose; only what stands under the name may differ, a file or nothing.

* `FileTree.Arrival`: a directory, or a name in one;
* `FileTree.arrives_of_resolve`: a path arrives at one of them in all trees of the frame;
* `FileTree.resolve_congr` and `FileTree.writeTarget_congr`: a directory or a link that a path leads
  to, and the location that it writes, are the same in all trees of the frame.
-/

import Retarget.Proofs.FileTree.Named

namespace Retarget.FileTree

variable {tree other : FileTree} {purpose : Purpose} {links : Nat} {here cwd : Location}
  {path : Path}

/-- What a path arrives at, whatever file stands there. -/
inductive Arrival where
  | directory (home : Location)
  | under (parent : Location) (name : Name)

/-- What an arrival is in a tree. -/
def Arrival.place (tree : FileTree) : Arrival → Place
  | .directory home => .directory home
  | .under parent name => tree.placeAt parent name

/-- A last step that follows no link arrives under its name. -/
theorem arrives_under {name : Name}
    (unfollowed : purpose = .remove ∨ ∀ target, tree.get? (name :: here) ≠ some (.link target))
    (other : FileTree) (same : SameFrame tree other) :
    other.walk purpose links here [.enter name] =
      .ok ((Arrival.under here name).place other) :=
  walk_name (unfollowed.imp id fun unlinked target link =>
    unlinked target ((same.link_iff _ _).mpr link))

/-- **A walk that succeeds** arrives at the same place in all trees of the frame. -/
theorem arrives_of_walk {steps : List Step} {place : Place}
    (walked : tree.walk purpose links here steps = .ok place) :
    ∃ arrival : Arrival, place = arrival.place tree ∧ ∀ other, SameFrame tree other →
      other.walk purpose links here steps = .ok (arrival.place other) := by
  fun_induction FileTree.walk tree purpose links here steps with
  | case1 links here =>
    cases walked
    exact ⟨.directory here, rfl, fun other _ => by rw [walk, Arrival.place]⟩
  | case2 links here rest ih | case3 links here rest ih | case4 links here rest ih =>
    obtain ⟨arrival, rfl, arrives⟩ := ih walked
    exact ⟨arrival, rfl, fun other same => by rw [walk, arrives other same]⟩
  | case5 | case6 | case8 | case11 | case13 => cases walked
  | case7 links here name absent =>
    cases walked
    refine ⟨.under here name, ?_, arrives_under (.inr (by simp [absent]))⟩
    rw [Arrival.place, placeAt, absent]
  | case9 links here name rest unslashed directory ih =>
    obtain ⟨arrival, rfl, arrives⟩ := ih walked
    refine ⟨arrival, rfl, fun other same => ?_⟩
    rw [walk, if_neg unslashed, (same.directory_iff _).mp directory]
    exact arrives other same
  | case10 links here name content file =>
    cases walked
    refine ⟨.under here name, ?_, arrives_under (.inr (by simp [file]))⟩
    rw [Arrival.place, placeAt, file]
  | case12 links here name rest unslashed target link kept =>
    cases walked
    obtain ⟨rfl, rfl⟩ := kept
    refine ⟨.under here name, ?_, arrives_under (.inl rfl)⟩
    rw [Arrival.place, placeAt, link]
  | case14 here name rest unslashed target link followed links ih =>
    obtain ⟨arrival, rfl, arrives⟩ := ih walked
    refine ⟨arrival, rfl, fun other same => ?_⟩
    rw [walk, if_neg unslashed, (same.link_iff _ _).mp link]
    simpa [followed] using arrives other same

/-- **A path that leads somewhere** arrives at the same place in all trees of the frame. -/
theorem arrives_of_resolve {place : Place} (resolved : tree.resolve cwd purpose path = .ok place) :
    ∃ arrival : Arrival, place = arrival.place tree ∧ ∀ other, SameFrame tree other →
      other.resolve cwd purpose path = .ok (arrival.place other) := by
  obtain ⟨clean, nonempty, short, walked⟩ := resolve_eq_ok_iff.mp resolved
  obtain ⟨arrival, shape, arrives⟩ := arrives_of_walk walked
  exact ⟨arrival, shape, fun other same =>
    resolve_eq_ok_iff.mpr ⟨clean, nonempty, short, arrives other same⟩⟩

/-- A link that a path leads to stands where it is. -/
theorem get?_of_resolve_link {location : Location} {target : Path}
    (resolved : tree.resolve cwd purpose path = .ok (.link location target)) :
    tree.get? location = some (.link target) := by
  obtain ⟨arrival, shape, -⟩ := arrives_of_resolve resolved
  cases arrival with
  | directory home => cases shape
  | under parent name =>
    rw [Arrival.place, placeAt] at shape
    split at shape
    · cases shape
    · cases shape
    · cases shape
    · next present =>
      cases shape
      exact present

/-- What an arrival is differs between trees of one frame only in what file stands there. -/
theorem Arrival.place_congr (same : SameFrame tree other) (arrival : Arrival) :
    arrival.place other = arrival.place tree ∨
      ∃ location, (arrival.place tree).target? = some location ∧
        (arrival.place other).target? = some location := by
  cases arrival with
  | directory home => exact .inl rfl
  | under parent name =>
    simp only [Arrival.place]
    by_cases directory : tree.get? (name :: parent) = some .directory
    · refine .inl ?_
      rw [placeAt, placeAt, directory, (same.directory_iff _).mp directory]
    · by_cases linked : ∃ target, tree.get? (name :: parent) = some (.link target)
      · obtain ⟨target, link⟩ := linked
        refine .inl ?_
        rw [placeAt, placeAt, link, (same.link_iff _ _).mp link]
      · have unlinked : ∀ target, tree.get? (name :: parent) ≠ some (.link target) :=
          fun target link => linked ⟨target, link⟩
        refine .inr ⟨name :: parent, ?_, ?_⟩
        · rw [target?_placeAt tree unlinked, if_neg directory]
        · rw [target?_placeAt other fun target link => unlinked target ((same.link_iff _ _).mpr link),
            if_neg fun found => directory ((same.directory_iff _).mpr found)]

/-- **A directory or a link** that a path leads to is the same in all trees of the frame. -/
theorem resolve_congr (same : SameFrame tree other) {place : Place} (fixed : place.target? = none)
    (resolved : tree.resolve cwd purpose path = .ok place) :
    other.resolve cwd purpose path = .ok place := by
  obtain ⟨arrival, rfl, arrives⟩ := arrives_of_resolve resolved
  rw [arrives other same]
  rcases arrival.place_congr same with equal | ⟨location, target, -⟩
  · rw [equal]
  · rw [fixed] at target
    cases target

/-- **The location that a path writes** is the same in all trees of the frame. -/
theorem writeTarget_congr [Host] (same : SameFrame tree other) {location : Location}
    (written : tree.writeTarget cwd path = .ok location) :
    other.writeTarget cwd path = .ok location := by
  obtain ⟨place, resolved, target, granted⟩ := writeTarget_eq_ok_iff.mp written
  obtain ⟨arrival, rfl, arrives⟩ := arrives_of_resolve resolved
  refine writeTarget_eq_ok_iff.mpr ⟨_, arrives other same, ?_, granted⟩
  rcases arrival.place_congr same with equal | ⟨there, stands, stands'⟩
  · rw [equal, target]
  · rw [stands', ← stands, target]

end Retarget.FileTree
