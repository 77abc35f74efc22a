/-
**The frame of a tree.**

The directories and links of a tree are its frame: they decide where a path leads, and no conversion
changes them.

* `FileTree.Same`: trees with one view;
* `FileTree.SameFrame`: trees with the same directories and links;
* `FileTree.TakesFile`: a location that a file may be written at;
* `FileTree.sameFrame_put` and `FileTree.sameFrame_erase`: writing and removing a file keep the
  frame.
-/

import Retarget.FileTree.Access

namespace Retarget

/-- Whether an entry belongs to the frame of its tree: all entries but files do. -/
def Entry.IsFrame : Entry → Prop
  | .file _ => False
  | _ => True

namespace FileTree

variable {tree other third : FileTree} {location : Location}

/-- Whether two trees have one view. -/
def Same (tree other : FileTree) : Prop := ∀ location, tree.get? location = other.get? location

/-- Whether two trees have the same directories and links. -/
def SameFrame (tree other : FileTree) : Prop :=
  ∀ (location : Location) (entry : Entry), entry.IsFrame →
    (tree.get? location = some entry ↔ other.get? location = some entry)

namespace SameFrame

theorem refl (tree : FileTree) : SameFrame tree tree := fun _ _ _ => Iff.rfl

theorem symm (same : SameFrame tree other) : SameFrame other tree :=
  fun location entry frame => (same location entry frame).symm

theorem trans (there : SameFrame tree other) (further : SameFrame other third) :
    SameFrame tree third :=
  fun location entry frame => (there location entry frame).trans (further location entry frame)

theorem directory_iff (same : SameFrame tree other) (location : Location) :
    tree.get? location = some .directory ↔ other.get? location = some .directory :=
  same location .directory trivial

theorem link_iff (same : SameFrame tree other) (location : Location) (target : Path) :
    tree.get? location = some (.link target) ↔ other.get? location = some (.link target) :=
  same location (.link target) trivial

end SameFrame

/-- What stands above a directory is a directory. -/
theorem get?_tail (tree : FileTree) (home : tree.get? location = some .directory) :
    tree.get? location.tail = some .directory := by
  cases location with
  | nil => rfl
  | cons name parent => exact tree.get?_parent home

/-- Whether a file may be written at a location: it stands in a directory, and it is neither a
directory nor a link. -/
structure TakesFile (tree : FileTree) (location : Location) : Prop where
  admits : tree.Admits location
  unlinked : ∀ target, tree.get? location ≠ some (.link target)

/-- A location that takes a file holds a file or nothing. -/
theorem TakesFile.not_isFrame (takes : TakesFile tree location) {entry : Entry}
    (present : tree.get? location = some entry) : ¬ entry.IsFrame := by
  intro frame
  cases entry with
  | directory =>
    cases location with
    | nil => exact takes.admits
    | cons name parent => exact takes.admits.2 present
  | file content => exact frame
  | link target => exact takes.unlinked target present

theorem TakesFile.congr (same : SameFrame tree other) (takes : TakesFile tree location) :
    TakesFile other location := by
  refine ⟨?_, fun target present => ?_⟩
  · cases location with
    | nil => exact takes.admits
    | cons name parent =>
      exact ⟨(same.directory_iff parent).mp takes.admits.1,
        fun present => takes.admits.2 ((same.directory_iff _).mpr present)⟩
  · exact takes.unlinked target ((same.link_iff location target).mpr present)

/-- **Writing a file** keeps the frame. -/
theorem sameFrame_put (takes : TakesFile tree location) (content : Bytes) :
    SameFrame tree (tree.put location (.file content)) := by
  intro place entry frame
  rw [tree.get?_put _ takes.admits]
  split
  · next here =>
    subst here
    constructor
    · exact fun present => (takes.not_isFrame present frame).elim
    · intro present
      rw [← Option.some.inj present] at frame
      exact frame.elim
  · exact Iff.rfl

/-- **Removing a file** keeps the frame. -/
theorem sameFrame_erase {content : Bytes} (present : tree.get? location = some (.file content)) :
    SameFrame tree (tree.erase location) := by
  have plain : tree.get? location ≠ some .directory := by rw [present]; simp
  intro place entry frame
  rw [tree.get?_erase plain]
  split
  · next here =>
    subst here
    rw [present]
    constructor
    · intro equal
      rw [← Option.some.inj equal] at frame
      exact frame.elim
    · intro absent
      cases absent
  · exact Iff.rfl

/-! ### Trees without links -/

/-- Whether a tree has no links. -/
def IsPlain (tree : FileTree) : Prop := ∀ location target, tree.get? location ≠ some (.link target)

theorem isPlain_of_entries (plain : ∀ place ∈ tree.entries, ∀ target, place.2 ≠ .link target) :
    tree.IsPlain := by
  intro location target link
  cases location with
  | nil => cases link
  | cons name parent => exact plain _ ((tree.get?_cons_eq_some_iff).mp link) target rfl

end FileTree

end Retarget
