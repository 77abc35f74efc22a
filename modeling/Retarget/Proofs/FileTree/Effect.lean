/-
**What writing and removing do to a tree.**

Writing a file leaves the frame as it is, wherever the path leads. A path that a file can be read at
names something that can be removed, the file itself or a link to it, and this is a matter of the
frame as well: as long as something stands there, removing takes it away, unless the host refuses to
remove anything from its directory.

* `FileTree.Grows`: what stands in one tree stands in the other;
* `FileTree.sameFrame_of_writeTarget`: writing keeps the frame;
* `FileTree.removeTarget`: the location whose entry removing takes away;
* `FileTree.removes_of_read`: what can be read can be removed.
-/

import Retarget.Proofs.FileTree.Arrival

namespace Retarget.FileTree

variable {tree next other after : FileTree} {cwd location : Location} {path : Path}

/-! ### Trees that grow -/

/-- Whether something stands in a tree wherever something stands in the tree before. -/
def Grows (tree after : FileTree) : Prop :=
  ∀ location, (tree.get? location).isSome → (after.get? location).isSome

namespace Grows

theorem refl (tree : FileTree) : tree.Grows tree := fun _ => id

theorem trans (there : tree.Grows next) (further : next.Grows after) : tree.Grows after :=
  fun location present => further location (there location present)

theorem put (tree : FileTree) (location : Location) (entry : Entry) :
    tree.Grows (tree.put location entry) := by
  intro place present
  by_cases admitted : tree.Admits location
  · rw [tree.get?_put entry admitted]
    split
    · rfl
    · exact present
  · rw [put_of_not_admits admitted]
    exact present

end Grows

/-! ### Writing -/

/-- **Writing** keeps the frame, wherever the path leads. -/
theorem sameFrame_of_writeTarget [Host] (written : tree.writeTarget cwd path = .ok location)
    (content : Bytes) : SameFrame tree (tree.put location (.file content)) := by
  by_cases admitted : tree.Admits location
  · refine sameFrame_put ⟨admitted, ?_⟩ content
    obtain ⟨place, resolved, target, -⟩ := writeTarget_eq_ok_iff.mp written
    obtain ⟨-, -, -, walked⟩ := resolve_eq_ok_iff.mp resolved
    obtain ⟨name, parent, rfl, leads⟩ := leadsTo_of_walk walked target
    exact leads.unlinked
  · rw [put_of_not_admits admitted]
    exact .refl tree

/-! ### Removing -/

/-- The location whose entry removing takes away. -/
def removeTarget [Host] (tree : FileTree) (cwd : Location) (path : Path) :
    Except FileError Location :=
  match tree.resolve cwd .remove path with
  | .error error => .error error
  | .ok (.file location _) | .ok (.link location _) =>
    Host.grant (Host.unremoved? location.tail) location
  | .ok (.directory _) => .error .isDirectory
  | .ok (.vacant _ _) => .error .missing

/-- **Removing** takes away the entry at one location. -/
theorem remove_eq [Host] (tree : FileTree) (cwd : Location) (path : Path) :
    tree.remove cwd path = (tree.removeTarget cwd path).map tree.erase := by
  rw [remove, removeTarget]
  cases tree.resolve cwd .remove path with
  | error error => rfl
  | ok place =>
    cases place with
    | directory | vacant => rfl
    | file | link => simp only [Host.map_grant]

/-- **Where looking ends at a file**, removing ends at a name: that of the file or of a link. -/
theorem removes_of_walk {links : Nat} {here : Location} {steps : List Step} {content : Bytes}
    (walked : tree.walk .look links here steps = .ok (.file location content)) :
    ∃ parent name, (tree.get? (name :: parent)).isSome ∧
      tree.get? (name :: parent) ≠ some .directory ∧ ∀ other, SameFrame tree other →
        other.walk .remove links here steps = .ok (other.placeAt parent name) := by
  fun_induction approach tree links here steps with
  | case1 links here =>
    rw [walk] at walked
    cases walked
  | case2 links here rest ih | case3 links here rest ih | case4 links here rest ih =>
    rw [walk] at walked
    obtain ⟨parent, name, present, free, removes⟩ := ih walked
    exact ⟨parent, name, present, free, fun other same => by rw [walk, removes other same]⟩
  | case5 links here rest =>
    rw [walk] at walked
    cases walked
  | case6 links here name rest absent =>
    rw [walk, absent] at walked
    by_cases last : rest = [] <;> simp [last] at walked
  | case7 links here name rest directory ih =>
    rw [walk, directory] at walked
    obtain ⟨parent, last, present, free, removes⟩ := ih (by simpa using walked)
    refine ⟨parent, last, present, free, fun other same => ?_⟩
    rw [walk, (same.directory_iff _).mp directory]
    simpa using removes other same
  | case8 links here name rest found file =>
    rw [walk, file] at walked
    by_cases last : rest = []
    · subst last
      exact ⟨here, name, by simp [file], by simp [file], fun other _ => walk_name (.inl rfl)⟩
    · simp [last] at walked
  | case9 here name rest target link =>
    rw [walk, link] at walked
    simp at walked
  | case10 here name rest target link links ih =>
    by_cases last : rest = []
    · -- Looking follows the link, and removing stops at it.
      subst last
      exact ⟨here, name, by simp [link], by simp [link], fun other _ => walk_name (.inl rfl)⟩
    · rw [walk, link] at walked
      obtain ⟨parent, outer, present, free, removes⟩ := ih (by simpa [start] using walked)
      refine ⟨parent, outer, present, free, fun other same => ?_⟩
      rw [walk, (same.link_iff _ _).mp link]
      simpa [last, start] using removes other same

/-- **What can be read can be removed**, as long as something stands where the path leads to and the
host does not refuse it. -/
theorem removes_of_read [Host] {content : Bytes} (read : tree.read cwd path = .ok content) :
    ∃ location, (tree.get? location).isSome ∧ ∀ other, SameFrame tree other →
      (other.get? location).isSome → other.removeTarget cwd path =
        Host.grant (Host.unremoved? location.tail) location := by
  rw [FileTree.read] at read
  split at read
  · cases read
  · next file _ resolved =>
    obtain ⟨clean, nonempty, short, walked⟩ := resolve_eq_ok_iff.mp resolved
    obtain ⟨parent, name, present, free, removes⟩ := removes_of_walk walked
    refine ⟨name :: parent, present, fun other same there => ?_⟩
    have resolved : other.resolve cwd .remove path = .ok (other.placeAt parent name) :=
      resolve_eq_ok_iff.mpr ⟨clean, nonempty, short, removes other same⟩
    rw [removeTarget, resolved, placeAt]
    cases stands : other.get? (name :: parent) with
    | none => simp [stands] at there
    | some entry =>
      cases entry with
      | directory => exact absurd ((same.directory_iff _).mpr stands) free
      | file | link => rfl
  · cases read
  · cases read

end Retarget.FileTree
