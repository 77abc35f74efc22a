/-
**File trees.**

A file tree is a finite map from locations to entries. A location lists the names on the way to it,
innermost first, so the parent of `name :: parent` is `parent` and the root is `[]`. The root is a
directory, each other entry stands in one, and no location has two entries.

* `FileTree.get?`: what stands at a location; this is the view of a tree;
* `FileTree.put`: one entry set where its parent is a directory (`get?_put`);
* `FileTree.erase`: one entry that is no directory taken away (`get?_erase`);
* `FileTree.prune`: a location taken away with all below it.
-/

import Retarget.Path.Basic

namespace Retarget

/-- Whether bytes can name a directory entry. -/
def Name.isProper (bytes : Bytes) : Bool :=
  !bytes.isEmpty && bytes != [Path.dot] && bytes != [Path.dot, Path.dot] &&
    !bytes.contains Path.slash && !bytes.contains 0 && decide (bytes.length ≤ 255)

/-- The name of a directory entry. -/
structure Name where
  bytes : Bytes
  proper : Name.isProper bytes = true
  deriving DecidableEq

def Name.ofBytes? (bytes : Bytes) : Option Name :=
  if proper : Name.isProper bytes = true then some ⟨bytes, proper⟩ else none

/-- Whether a name starts with a dot. -/
def Name.isDotted (name : Name) : Bool := name.bytes.head? == some Path.dot

/-- The names on the way to a place, innermost first. -/
abbrev Location := List Name

/-- What stands at a location. -/
inductive Entry where
  | directory
  | file (content : Bytes)
  | link (target : Path)
  deriving DecidableEq

/-- A finite tree of directories, files and symbolic links. -/
structure FileTree where
  entries : List (Location × Entry)
  distinct : (entries.map (·.1)).Nodup
  housed : ∀ place ∈ entries, ∃ name parent, place.1 = name :: parent ∧
    (parent = [] ∨ (parent, Entry.directory) ∈ entries)

namespace FileTree

/-- The tree of one empty directory. -/
def empty : FileTree := ⟨[], List.nodup_nil, by simp⟩

/-- What stands at a location. The root is a directory. -/
def get? (tree : FileTree) : Location → Option Entry
  | [] => some .directory
  | location => tree.entries.lookup location

theorem lookup_eq_some_iff {entries : List (Location × Entry)}
    (distinct : (entries.map (·.1)).Nodup) {location : Location} {entry : Entry} :
    entries.lookup location = some entry ↔ (location, entry) ∈ entries := by
  induction entries with
  | nil => simp
  | cons first rest ih =>
    obtain ⟨place, other⟩ := first
    simp only [List.map_cons, List.nodup_cons] at distinct
    rw [List.lookup_cons]
    by_cases same : location = place
    · subst same
      simp only [beq_self_eq_true, List.mem_cons, Prod.mk.injEq, true_and]
      constructor
      · intro equal
        exact .inl (Option.some.inj equal).symm
      · rintro (rfl | inside)
        · rfl
        · exact absurd (List.mem_map_of_mem inside) distinct.1
    · have differs : (location == place) = false := by simpa using same
      rw [differs]
      simpa [same] using ih distinct.2

@[simp] theorem get?_root (tree : FileTree) : tree.get? [] = some .directory := rfl

theorem nil_notMem (tree : FileTree) (entry : Entry) : ([], entry) ∉ tree.entries := by
  intro inside
  obtain ⟨name, parent, shape, -⟩ := tree.housed _ inside
  exact absurd shape (by simp)

theorem get?_cons_eq_some_iff (tree : FileTree) {name : Name} {parent : Location}
    {entry : Entry} :
    tree.get? (name :: parent) = some entry ↔ (name :: parent, entry) ∈ tree.entries :=
  lookup_eq_some_iff tree.distinct

/-- **Every entry stands in a directory.** -/
theorem get?_parent (tree : FileTree) {name : Name} {parent : Location} {entry : Entry}
    (present : tree.get? (name :: parent) = some entry) :
    tree.get? parent = some .directory := by
  obtain ⟨_, _, shape, home⟩ := tree.housed _ ((tree.get?_cons_eq_some_iff).mp present)
  obtain ⟨rfl, rfl⟩ := List.cons.inj shape
  cases parent with
  | nil => rfl
  | cons outer rest =>
    rcases home with home | home
    · exact absurd home (by simp)
    · exact (tree.get?_cons_eq_some_iff).mpr home

/-! ### Setting one entry -/

/-- Whether an entry may be set at a location: its parent is a directory, and no directory stands
there. -/
def Admits (tree : FileTree) : Location → Prop
  | [] => False
  | name :: parent =>
    tree.get? parent = some .directory ∧ tree.get? (name :: parent) ≠ some .directory

instance (tree : FileTree) (location : Location) : Decidable (tree.Admits location) := by
  cases location <;> unfold Admits <;> infer_instance

/-- Replaces the entry at a location where there is one, and adds it at the end otherwise. -/
def setEntry (entries : List (Location × Entry)) (location : Location) (entry : Entry) :
    List (Location × Entry) :=
  if (entries.lookup location).isSome then
    entries.map fun place => if place.1 = location then (location, entry) else place
  else entries ++ [(location, entry)]

theorem map_fst_replace (entries : List (Location × Entry)) (location : Location) (entry : Entry) :
    (entries.map fun place => if place.1 = location then (location, entry) else place).map (·.1) =
      entries.map (·.1) := by
  rw [List.map_map]
  refine List.map_congr_left fun place _ => ?_
  simp only [Function.comp_apply]
  split
  · next same => exact same.symm
  · rfl

theorem setEntry_distinct {entries : List (Location × Entry)}
    (distinct : (entries.map (·.1)).Nodup) (location : Location) (entry : Entry) :
    ((setEntry entries location entry).map (·.1)).Nodup := by
  unfold setEntry
  split
  · rwa [map_fst_replace]
  · next absent =>
    rw [List.map_append, List.nodup_append]
    refine ⟨distinct, by simp, ?_⟩
    intro place inside other last same
    obtain ⟨⟨_, found⟩, member, rfl⟩ := List.mem_map.mp inside
    simp only [List.map_cons, List.map_nil, List.mem_singleton] at last
    subst last same
    rw [(lookup_eq_some_iff distinct).mpr member] at absent
    simp at absent

theorem mem_setEntry {entries : List (Location × Entry)} {location : Location} {entry : Entry}
    {place : Location × Entry} :
    place ∈ setEntry entries location entry ↔
      place = (location, entry) ∨ (place ∈ entries ∧ place.1 ≠ location) := by
  unfold setEntry
  split
  · next present =>
    rw [List.mem_map]
    constructor
    · rintro ⟨old, member, rfl⟩
      split
      · exact .inl rfl
      · next differs => exact .inr ⟨member, differs⟩
    · rintro (rfl | ⟨member, differs⟩)
      · by_cases exists_ : ∃ other, (location, other) ∈ entries
        · obtain ⟨other, member⟩ := exists_
          exact ⟨_, member, by simp⟩
        · have absent : entries.lookup location = none :=
            List.lookup_eq_none_iff.mpr fun place inside =>
              bne_iff_ne.mpr fun same => exists_ ⟨place.2, by rw [same]; exact inside⟩
          simp [absent] at present
      · exact ⟨place, member, by simp [differs]⟩
  · next absent =>
    rw [List.mem_append, List.mem_singleton]
    constructor
    · rintro (member | rfl)
      · refine .inr ⟨member, fun same => ?_⟩
        rw [Option.not_isSome_iff_eq_none, List.lookup_eq_none_iff] at absent
        exact bne_iff_ne.mp (absent place member) same.symm
      · exact .inl rfl
    · rintro (rfl | ⟨member, -⟩)
      · exact .inr rfl
      · exact .inl member

theorem setEntry_housed (tree : FileTree) {location : Location} {entry : Entry}
    (admitted : tree.Admits location) :
    ∀ place ∈ setEntry tree.entries location entry, ∃ name parent, place.1 = name :: parent ∧
      (parent = [] ∨ (parent, Entry.directory) ∈ setEntry tree.entries location entry) := by
  cases location with
  | nil => exact admitted.elim
  | cons last home =>
    have kept : ∀ {parent : Location}, (parent, Entry.directory) ∈ tree.entries →
        (parent, Entry.directory) ∈ setEntry tree.entries (last :: home) entry := by
      intro parent member
      refine mem_setEntry.mpr (.inr ⟨member, fun same => admitted.2 ?_⟩)
      exact (tree.get?_cons_eq_some_iff).mpr (same ▸ member)
    intro place inside
    rcases mem_setEntry.mp inside with rfl | ⟨member, -⟩
    · refine ⟨last, home, rfl, ?_⟩
      cases home with
      | nil => exact .inl rfl
      | cons outer rest => exact .inr (kept ((tree.get?_cons_eq_some_iff).mp admitted.1))
    · obtain ⟨name, parent, shape, house⟩ := tree.housed place member
      exact ⟨name, parent, shape, house.imp id kept⟩

/-- The tree with an entry set at a location that admits one; any other location stays as it is. -/
def put (tree : FileTree) (location : Location) (entry : Entry) : FileTree :=
  if admitted : tree.Admits location then
    ⟨setEntry tree.entries location entry, setEntry_distinct tree.distinct _ _,
      tree.setEntry_housed admitted⟩
  else tree

/-- **After setting an entry it is there, and all others are as before.** -/
theorem get?_put (tree : FileTree) {location : Location} (entry : Entry)
    (admitted : tree.Admits location) (other : Location) :
    (tree.put location entry).get? other =
      if other = location then some entry else tree.get? other := by
  rw [put, dif_pos admitted]
  cases other with
  | nil =>
    cases location with
    | nil => exact admitted.elim
    | cons => simp
  | cons name parent =>
    split
    · next same =>
      exact (lookup_eq_some_iff (setEntry_distinct tree.distinct _ _)).mpr
        (mem_setEntry.mpr (.inl (by rw [same])))
    · next differs =>
      refine Option.ext fun found => ?_
      rw [get?_cons_eq_some_iff, get?_cons_eq_some_iff, mem_setEntry]
      simp [differs]

theorem put_of_not_admits {tree : FileTree} {location : Location} {entry : Entry}
    (refused : ¬ tree.Admits location) : tree.put location entry = tree := by
  rw [put, dif_neg refused]

/-! ### Taking entries away -/

theorem filter_distinct {entries : List (Location × Entry)}
    (distinct : (entries.map (·.1)).Nodup) (keep : Location × Entry → Bool) :
    ((entries.filter keep).map (·.1)).Nodup :=
  distinct.sublist (List.filter_sublist.map _)

theorem erase_housed (tree : FileTree) {location : Location}
    (plain : tree.get? location ≠ some .directory) :
    ∀ place ∈ tree.entries.filter (·.1 ≠ location), ∃ name parent, place.1 = name :: parent ∧
      (parent = [] ∨ (parent, Entry.directory) ∈ tree.entries.filter (·.1 ≠ location)) := by
  intro place inside
  obtain ⟨name, parent, shape, house⟩ := tree.housed place (List.mem_filter.mp inside).1
  refine ⟨name, parent, shape, house.imp id fun member => List.mem_filter.mpr ⟨member, ?_⟩⟩
  refine decide_eq_true fun same => plain ?_
  cases parent with
  | nil => exact absurd member (tree.nil_notMem _)
  | cons => exact same ▸ (tree.get?_cons_eq_some_iff).mpr member

/-- The tree without the entry at a location; a directory stays. -/
def erase (tree : FileTree) (location : Location) : FileTree :=
  if plain : tree.get? location ≠ some .directory then
    ⟨tree.entries.filter (·.1 ≠ location), filter_distinct tree.distinct _,
      tree.erase_housed plain⟩
  else tree

/-- **After erasing an entry it is gone, and all others are as before.** -/
theorem get?_erase (tree : FileTree) {location : Location}
    (plain : tree.get? location ≠ some .directory) (other : Location) :
    (tree.erase location).get? other =
      if other = location then none else tree.get? other := by
  rw [erase, dif_pos plain]
  cases other with
  | nil =>
    split
    · next same => exact absurd (same ▸ tree.get?_root) plain
    · rfl
  | cons name parent =>
    refine Option.ext fun found => ?_
    rw [get?_cons_eq_some_iff]
    split
    · next same => simp [same]
    · next differs => rw [get?_cons_eq_some_iff]; simp [differs]

/-- The tree without a location and all that lies below it. -/
def prune (tree : FileTree) (location : Location) : FileTree where
  entries := tree.entries.filter fun place => !location.isSuffixOf place.1
  distinct := filter_distinct tree.distinct _
  housed := by
    intro place inside
    obtain ⟨member, outside⟩ := List.mem_filter.mp inside
    obtain ⟨name, parent, shape, house⟩ := tree.housed place member
    refine ⟨name, parent, shape, house.imp id fun home => List.mem_filter.mpr ⟨home, ?_⟩⟩
    simp only [Bool.not_eq_true', ← Bool.not_eq_true, List.isSuffixOf_iff_suffix] at outside ⊢
    exact fun below => outside (shape ▸ below.trans (List.suffix_cons _ _))

end FileTree

end Retarget
