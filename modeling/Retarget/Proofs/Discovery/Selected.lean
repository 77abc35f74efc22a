/-
**Which files are selected.**

A selected file is reached from the root through directories, and its path is the root with the
names on the way put below it. The names are determined by the path, and so is the place of the
file.

* `Discovery.mem_reached`: what is visited below a location;
* `Discovery.Selected`: what makes a file a candidate, with the names that lead to it;
* `Discovery.mem_candidates`: the candidates are the selected files;
* `Discovery.nodup_candidates`: no candidate is listed twice;
* `Discovery.reaches_pathOf`: the front of a candidate's path leads to the directory of its file.
-/

import Mathlib.Data.List.Nodup
import Retarget.Discovery
import Retarget.Proofs.FileTree.Named

namespace Retarget

open Retarget.Path (slash)

namespace Discovery

variable {tree : FileTree} {cwd home : Location} {root : Path} {wanted : List Script.Source}
  {tokens : List String}

/-! ### Paths below a root -/

/-- **The steps of a path below a root** are those of the root and the names. -/
theorem way_pathOf (root : Path) (names : List Name) :
    (pathOf root names).way = root.way ++ names.map Step.enter := by
  induction names generalizing root with
  | nil => simp [pathOf]
  | cons name rest ih =>
    calc (pathOf (root.under name.bytes) rest).way
        = (root.under name.bytes).way ++ rest.map Step.enter := ih _
      _ = root.way ++ (name :: rest).map Step.enter := by
        rw [Path.under_eq, Path.way_append (Path.isFront_opened root) name.isWord, Path.way_opened]
        simp

theorem pathOf_injective (root : Path) : Function.Injective (pathOf root) := by
  intro names names' same
  have ways := congrArg Path.way same
  rw [way_pathOf, way_pathOf, List.append_cancel_left_eq] at ways
  exact List.map_injective_iff.mpr (fun _ _ => Step.enter.inj) ways

theorem pathOf_append (root : Path) (names : List Name) (last : Name) :
    pathOf root (names ++ [last]) = (pathOf root names).opened ++ last.bytes := by
  rw [pathOf, List.foldl_append]
  exact Path.under_eq _ _

theorem exists_pathOf_eq_append (root : Path) (names : List Name) :
    ∃ rest, pathOf root names = root ++ rest ∧ (0 ∉ rest) := by
  induction names generalizing root with
  | nil => exact ⟨[], by simp [pathOf]⟩
  | cons name others ih =>
    obtain ⟨rest, shape, clean⟩ := ih (root.under name.bytes)
    have front : ∃ between, root.opened = root ++ between ∧ (0 : UInt8) ∉ between := by
      unfold Path.opened
      split
      · exact ⟨[], by simp⟩
      · exact ⟨[slash], rfl, by decide⟩
    obtain ⟨between, opened, slashed⟩ := front
    refine ⟨between ++ name.bytes ++ rest, ?_, ?_⟩
    · rw [show pathOf root (name :: others) = pathOf (root.under name.bytes) others from rfl, shape,
        Path.under_eq, opened]
      simp
    · simp [slashed, clean, name.zero_notMem]

/-! ### What is visited -/

theorem below?_eq_some_iff {location : Location} {names : List Name} :
    below? home location = some names ↔ location = names.reverse ++ home := by
  unfold below?
  split
  · next below =>
    rw [List.isSuffixOf_iff_suffix] at below
    obtain ⟨inner, rfl⟩ := below
    rw [Option.some.injEq]
    simp only [List.length_append, Nat.add_sub_cancel, List.take_left]
    constructor
    · rintro rfl
      rw [List.reverse_reverse]
    · intro same
      rw [List.append_cancel_right_eq] at same
      rw [same, List.reverse_reverse]
  · next outside =>
    simp only [reduceCtorEq, false_iff]
    rintro rfl
    exact outside (by simp)

theorem mem_allBelow {found : Found} :
    found ∈ allBelow tree home ↔
      found.names ≠ [] ∧ tree.get? (found.names.reverse ++ home) = some found.entry := by
  obtain ⟨names, entry⟩ := found
  have present : ∀ location : Location, location ≠ [] →
      ((location, entry) ∈ tree.entries ↔ tree.get? location = some entry) := by
    intro location deep
    cases location with
    | nil => exact absurd rfl deep
    | cons name parent => exact (tree.get?_cons_eq_some_iff).symm
  rw [allBelow, List.mem_filterMap]
  constructor
  · rintro ⟨⟨location, entry'⟩, inside, picked⟩
    cases below : below? home location with
    | none => simp [below] at picked
    | some names' =>
      cases names' with
      | nil => simp [below] at picked
      | cons name rest =>
        simp only [below, Option.some.injEq, Found.mk.injEq] at picked
        obtain ⟨rfl, rfl⟩ := picked
        obtain rfl := below?_eq_some_iff.mp below
        exact ⟨by simp, (present _ (by simp)).mp inside⟩
  · rintro ⟨nonempty, found⟩
    have deep : names.reverse ++ home ≠ [] := by simp [nonempty]
    refine ⟨(names.reverse ++ home, entry), (present _ deep).mpr found, ?_⟩
    cases names with
    | nil => exact absurd rfl nonempty
    | cons name rest => simp only [below?_eq_some_iff.mpr rfl]

theorem mem_reached [Host] {found : Found} :
    found ∈ reached tree home ↔
      found.names ≠ [] ∧ tree.get? (found.names.reverse ++ home) = some found.entry ∧
        ∀ name ∈ found.names, Host.hides name = false := by
  rw [reached, List.mem_filter, mem_allBelow, and_assoc]
  simp

/-- Nothing is visited twice. -/
theorem nodup_reached [Host] (tree : FileTree) (home : Location) :
    ((reached tree home).map (·.names)).Nodup := by
  have visits : (allBelow tree home).map (·.names) =
      (tree.entries.map (·.1)).filterMap fun location =>
        (below? home location).filter (· ≠ []) := by
    rw [allBelow, List.map_filterMap, List.filterMap_map]
    refine List.filterMap_congr fun place _ => ?_
    cases below : below? home place.1 with
    | none => simp [below]
    | some names => cases names <;> simp [below, Option.filter]
  have all : ((allBelow tree home).map (·.names)).Nodup := by
    rw [visits]
    refine List.Nodup.filterMap (fun location location' names here here' => ?_) tree.distinct
    rw [Option.mem_def, Option.filter_eq_some_iff] at here here'
    rw [below?_eq_some_iff.mp here.1, below?_eq_some_iff.mp here'.1]
  exact all.sublist (List.filter_sublist.map _)

/-! ### The candidates -/

/-- Whether a file is selected below a root: names that are not hidden lead to it, its ending is
wanted, and no token excludes its path. -/
structure Selected [Host] (tree : FileTree) (home : Location) (root : Path)
    (wanted : List Script.Source) (tokens : List String) (candidate : Candidate) (names : List Name)
    (content : Bytes) : Prop where
  nonempty : names ≠ []
  visible : ∀ name ∈ names, Host.hides name = false
  stands : tree.get? (names.reverse ++ home) = some (.file content)
  path_eq : candidate.path = pathOf root names
  ending : Script.Source.ofPath? wanted candidate.path = some candidate.source
  kept : isExcluded tokens candidate = false

theorem mem_matching {visits : List Found} {candidate : Candidate} :
    candidate ∈ matching root wanted visits ↔
      ∃ found ∈ visits, (∃ content, found.entry = .file content) ∧
        candidate.path = pathOf root found.names ∧
        Script.Source.ofPath? wanted candidate.path = some candidate.source := by
  rw [matching, List.mem_filterMap]
  refine exists_congr fun found => and_congr_right fun _ => ?_
  obtain ⟨names, entry⟩ := found
  obtain ⟨path, source⟩ := candidate
  cases entry with
  | directory | link => simp
  | file content =>
    simp only [Option.map_eq_some_iff, Candidate.mk.injEq, Entry.file.injEq, exists_eq', true_and]
    constructor
    · rintro ⟨source', ending, rfl, rfl⟩
      exact ⟨rfl, ending⟩
    · rintro ⟨rfl, ending⟩
      exact ⟨source, ending, rfl, rfl⟩

theorem map_filterMap_sublist {α β γ : Type} {f : α → Option β} {g : β → γ} {h : α → γ}
    (agree : ∀ a b, f a = some b → g b = h a) (list : List α) :
    ((list.filterMap f).map g).Sublist (list.map h) := by
  induction list with
  | nil => exact .refl _
  | cons a rest ih =>
    cases picked : f a with
    | none =>
      rw [List.filterMap_cons_none picked]
      exact ih.cons _
    | some b =>
      rw [List.filterMap_cons_some picked, List.map_cons, List.map_cons, agree a b picked]
      exact ih.cons_cons _

theorem matching_paths_sublist (root : Path) (wanted : List Script.Source) (visits : List Found) :
    ((matching root wanted visits).map (·.path)).Sublist
      (visits.map fun found => pathOf root found.names) := by
  refine map_filterMap_sublist (fun found candidate picked => ?_) visits
  obtain ⟨names, entry⟩ := found
  cases entry with
  | directory | link => cases picked
  | file content =>
    obtain ⟨source, -, rfl⟩ := Option.map_eq_some_iff.mp picked
    rfl

/-- What a successful search for candidates has found. -/
theorem candidates_eq_ok [Host] {list : List Candidate}
    (found : candidates tree cwd root wanted tokens = .ok list) :
    ∃ home visits, locate tree cwd root = .ok home ∧
      visits = (if isStream root then [] else reached tree home) ∧
      list = ((matching root wanted visits).filter fun c => !isExcluded tokens c).mergeSort
        fun first second => first.path.before second.path := by
  unfold candidates walk at found
  cases located : locate tree cwd root with
  | error failure => simp [located, Except.map] at found
  | ok home =>
    simp only [located] at found
    refine ⟨home, _, rfl, rfl, ?_⟩
    by_cases stream : isStream root = true
    · simp only [stream, if_true, Except.map, Except.ok.injEq] at found ⊢
      exact found.symm
    · rw [if_neg stream] at found ⊢
      cases unlisted : unlisted? home root (reached tree home) with
      | some directory => simp [unlisted, Except.map] at found
      | none =>
        simp only [unlisted, Except.map, Except.ok.injEq] at found
        exact found.symm

theorem locate_of_candidates [Host] {list : List Candidate}
    (found : candidates tree cwd root wanted tokens = .ok list) :
    ∃ home, locate tree cwd root = .ok home :=
  let ⟨home, _, located, _⟩ := candidates_eq_ok found
  ⟨home, located⟩

/-- **The candidates are the selected files.** -/
theorem mem_candidates [Host] {list : List Candidate} {candidate : Candidate}
    (found : candidates tree cwd root wanted tokens = .ok list)
    (located : locate tree cwd root = .ok home) :
    candidate ∈ list ↔ isStream root = false ∧
      ∃ names content, Selected tree home root wanted tokens candidate names content := by
  obtain ⟨home', visits, located', rfl, rfl⟩ := candidates_eq_ok found
  rw [located, Except.ok.injEq] at located'
  subst located'
  rw [List.mem_mergeSort, List.mem_filter, mem_matching]
  cases stream : isStream root with
  | true => simp
  | false =>
    simp only [Bool.false_eq_true, if_false, mem_reached, Bool.not_eq_true', true_and]
    constructor
    · rintro ⟨⟨⟨names, entry⟩, ⟨nonempty, stands, visible⟩, ⟨content, rfl⟩, path_eq, ending⟩, kept⟩
      exact ⟨names, content, nonempty, visible, stands, path_eq, ending, kept⟩
    · rintro ⟨names, content, nonempty, visible, stands, path_eq, ending, kept⟩
      exact ⟨⟨⟨names, .file content⟩, ⟨nonempty, stands, visible⟩, ⟨content, rfl⟩, path_eq, ending⟩,
        kept⟩

/-- **No candidate is listed twice.** -/
theorem nodup_candidates [Host] {list : List Candidate}
    (found : candidates tree cwd root wanted tokens = .ok list) : list.Nodup := by
  obtain ⟨home, visits, -, rfl, rfl⟩ := candidates_eq_ok found
  refine (List.mergeSort_perm _ _).nodup_iff.mpr (List.Nodup.filter _ ?_)
  refine List.Nodup.of_map Candidate.path (List.Nodup.sublist (matching_paths_sublist _ _ _) ?_)
  split
  · exact List.nodup_nil
  · have paths := (nodup_reached tree home).map (pathOf_injective root)
    rwa [List.map_map] at paths

/-! ### The way to a selected file -/

/-- **A root is found** where its path leads to a directory. -/
theorem locate_eq_ok_iff :
    locate tree cwd root = .ok home ↔ tree.resolve cwd .look root = .ok (.directory home) := by
  rw [locate]
  cases tree.resolve cwd .look root with
  | error error => simp
  | ok place => cases place <;> simp

/-- The root leads to its location. -/
theorem reaches_root (located : locate tree cwd root = .ok home) :
    root ≠ [] ∧ 0 ∉ root ∧
      ∃ links, tree.approach 40 (FileTree.start cwd root) root.way = .ok (links, home) := by
  obtain ⟨clean, nonempty, -, approached⟩ :=
    FileTree.resolve_directory_iff.mp (locate_eq_ok_iff.mp located)
  exact ⟨nonempty, clean, approached⟩

/-- What stands above a directory is a directory. -/
theorem directory_of_append (tree : FileTree) (inner : List Name)
    (directory : tree.get? (inner ++ home) = some .directory) :
    tree.get? home = some .directory := by
  induction inner with
  | nil => exact directory
  | cons name rest ih => exact ih (tree.get?_parent directory)

theorem approach_names (names : List Name) {links : Nat}
    (directory : tree.get? (names.reverse ++ home) = some .directory) :
    tree.approach links home (names.map Step.enter) = .ok (links, names.reverse ++ home) := by
  induction names generalizing home with
  | nil => rw [List.map_nil, FileTree.approach]; rfl
  | cons name rest ih =>
    rw [List.reverse_cons, List.append_assoc, List.singleton_append] at directory ⊢
    rw [List.map_cons, FileTree.approach, directory_of_append tree _ directory]
    exact ih directory

/-- **A directory below the root** is reached by its names. -/
theorem reaches_pathOf (located : locate tree cwd root = .ok home) {names : List Name}
    (directory : tree.get? (names.reverse ++ home) = some .directory) :
    ∃ links, tree.Reaches cwd (pathOf root names).opened links (names.reverse ++ home) := by
  obtain ⟨nonempty, clean, links, approached⟩ := reaches_root located
  obtain ⟨rest, shape, unbroken⟩ := exists_pathOf_eq_append root names
  refine ⟨links, Path.isFront_opened _, ?_, ?_⟩
  · unfold Path.opened
    split <;> simp [shape, clean, unbroken, slash]
  · have start : FileTree.start cwd (pathOf root names).opened = FileTree.start cwd root := by
      have absolute : (pathOf root names).opened.isAbsolute = root.isAbsolute := by
        rw [Path.isAbsolute_opened, shape]
        cases root with
        | nil => exact absurd rfl nonempty
        | cons first others => rfl
      rw [FileTree.start, absolute, FileTree.start]
    rw [start, Path.way_opened, way_pathOf, FileTree.approach_append, approached]
    exact approach_names names directory

namespace Selected

variable [Host] {candidate candidate' : Candidate} {names names' : List Name}
  {content content' : Bytes}

/-- The last name is that of the file, and those before it lead to its directory. -/
theorem exists_last (selected : Selected tree home root wanted tokens candidate names content) :
    ∃ before last, names = before ++ [last] ∧
      tree.get? (last :: (before.reverse ++ home)) = some (.file content) ∧
      tree.get? (before.reverse ++ home) = some .directory ∧
      candidate.path = (pathOf root before).opened ++ last.bytes := by
  obtain rfl | ⟨before, last, shape⟩ := List.eq_nil_or_concat names
  · exact absurd rfl selected.nonempty
  · rw [List.concat_eq_append] at shape
    subst shape
    have stands := selected.stands
    rw [List.reverse_append, List.reverse_singleton, List.append_assoc, List.singleton_append]
      at stands
    refine ⟨before, last, rfl, stands, tree.get?_parent stands, ?_⟩
    rw [selected.path_eq, pathOf_append]

/-- **Files at one place** are one candidate. -/
theorem eq_of_names (selected : Selected tree home root wanted tokens candidate names content)
    (selected' : Selected tree home root wanted tokens candidate' names content') :
    candidate = candidate' := by
  obtain ⟨path, source⟩ := candidate
  obtain ⟨path', source'⟩ := candidate'
  obtain rfl : path = path' := selected.path_eq.trans selected'.path_eq.symm
  obtain rfl : source = source' :=
    Option.some.inj (selected.ending.symm.trans selected'.ending)
  rfl

end Selected

end Discovery

end Retarget
