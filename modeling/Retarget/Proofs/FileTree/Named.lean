/-
**Paths that end in a name.**

A path that is a front and a word leads to what stands under the word in the directory that the
front leads to. So all that is asked of such a path is answered by one directory and one name.

* `Path.steps_append`: the steps of a front with a word behind it;
* `FileTree.resolve_directory_iff`: the paths that lead to a directory;
* `FileTree.Reaches`: a front leads to a directory;
* `FileTree.writeTarget` and `FileTree.writeTarget_eq_ok_iff`: the location that writing to a path
  sets;
* `FileTree.Reaches.read_eq`, `writeTarget_eq` and `remove_eq`: the operations at a name.
-/

import Retarget.Proofs.FileTree.Approach
import Retarget.Proofs.Path.Front

namespace Retarget

open Retarget.Path (IsFront IsWord slash)

/-! ### Names as words -/

namespace Name

theorem proper_iff {bytes : Bytes} : Name.isProper bytes = true ↔
    IsWord bytes ∧ 0 ∉ bytes ∧ bytes.length ≤ 255 := by
  simp only [Name.isProper, Bool.and_eq_true, Bool.not_eq_true', List.isEmpty_eq_false_iff,
    bne_iff_ne, ne_eq, List.contains_eq_mem, decide_eq_false_iff_not, decide_eq_true_eq]
  constructor
  · rintro ⟨⟨⟨⟨⟨nonempty, not_dot⟩, not_dots⟩, whole⟩, clean⟩, short⟩
    exact ⟨⟨nonempty, not_dot, not_dots, whole⟩, clean, short⟩
  · rintro ⟨⟨nonempty, not_dot, not_dots, whole⟩, clean, short⟩
    exact ⟨⟨⟨⟨⟨nonempty, not_dot⟩, not_dots⟩, whole⟩, clean⟩, short⟩

theorem isWord (name : Name) : IsWord name.bytes := (proper_iff.mp name.proper).1

theorem zero_notMem (name : Name) : 0 ∉ name.bytes := (proper_iff.mp name.proper).2.1

theorem ofBytes?_bytes (name : Name) : Name.ofBytes? name.bytes = some name := by
  rw [Name.ofBytes?, dif_pos name.proper]

theorem bytes_of_ofBytes? {bytes : Bytes} {name : Name} (named : Name.ofBytes? bytes = some name) :
    name.bytes = bytes := by
  unfold Name.ofBytes? at named
  split at named
  · cases named
    rfl
  · cases named

end Name

/-- The location that texts lead to, outermost first; a text that is no name is left out. -/
def Location.ofTexts (texts : List String) : Location :=
  (texts.filterMap fun text => Name.ofBytes? (Bytes.ofString text)).reverse

/-! ### Steps -/

/-- The step of a word: into its name, unless it is too long for one. -/
def Step.ofWord (word : Bytes) : Step :=
  match Name.ofBytes? word with
  | some name => .enter name
  | none => .tooLong

theorem Step.ofSegment?_word {word : Bytes} (isWord : IsWord word) :
    Step.ofSegment? word = some (Step.ofWord word) := by
  rw [Step.ofSegment?, if_neg isWord.nonempty, if_neg isWord.not_dot, if_neg isWord.not_dots,
    Step.ofWord]
  cases Name.ofBytes? word <;> rfl

@[simp] theorem Step.ofWord_bytes (name : Name) : Step.ofWord name.bytes = .enter name := by
  rw [Step.ofWord, name.ofBytes?_bytes]

namespace Path

/-- The steps of a path without the one for a slash at its end. -/
def way (path : Path) : List Step := (segments slash path).filterMap Step.ofSegment?

theorem steps_eq (path : Path) :
    path.steps = path.way ++ if path.getLast? = some slash then [.slash] else [] := rfl

theorem way_append {front word : Path} (isFront : IsFront front) (isWord : IsWord word) :
    way (front ++ word) = way front ++ [Step.ofWord word] := by
  have last : (segments slash word).filterMap Step.ofSegment? = [Step.ofWord word] := by
    rw [segments_of_notMem isWord.whole]
    simp [Step.ofSegment?_word isWord]
  rcases isFront.eq_nil_or_append with rfl | ⟨outer, rfl⟩
  · exact last
  · rw [way, way, List.append_assoc, List.singleton_append, segments_append, segments_append,
      List.filterMap_append, List.filterMap_append, last]
    simp [segments, Step.ofSegment?]

theorem way_opened (path : Path) : path.opened.way = path.way := by
  unfold opened
  split
  · rfl
  · rw [way, way, segments_append, List.filterMap_append]
    simp [segments, Step.ofSegment?]

/-- **The steps of a front with a word behind it.** -/
theorem steps_append {front word : Path} (isFront : IsFront front) (isWord : IsWord word) :
    steps (front ++ word) = way front ++ [Step.ofWord word] := by
  rw [steps_eq, if_neg (isWord.getLast?_append_ne front), List.append_nil,
    way_append isFront isWord]

theorem isAbsolute_append {front word : Path} (isWord : IsWord word) :
    (front ++ word).isAbsolute = front.isAbsolute := by
  cases front with
  | nil =>
    cases word with
    | nil => rfl
    | cons first rest =>
      have other : first ≠ slash := fun same => isWord.whole (same ▸ List.mem_cons_self)
      simpa [isAbsolute] using other
  | cons first rest => rfl

theorem isAbsolute_opened (path : Path) : path.opened.isAbsolute = path.isAbsolute := by
  unfold opened
  split
  · rfl
  · next open_ =>
    rw [not_or] at open_
    obtain ⟨first, rest, rfl⟩ := List.exists_cons_of_ne_nil open_.1
    rfl

end Path

namespace FileTree

variable {tree other : FileTree} {cwd parent : Location} {front : Path} {links : Nat}
  {purpose : Purpose}

/-- **A path that leads somewhere** is short and unbroken, and its steps are walked. -/
theorem resolve_eq_ok_iff {path : Path} {place : Place} :
    tree.resolve cwd purpose path = .ok place ↔ 0 ∉ path ∧ path ≠ [] ∧ path.length < 4096 ∧
      tree.walk purpose 40 (start cwd path) path.steps = .ok place := by
  rw [resolve]
  by_cases broken : 0 ∈ path
  · simp [broken]
  · by_cases empty : path = []
    · simp [empty]
    · by_cases long : 4096 ≤ path.length
      · simp [broken, empty, long, Nat.not_lt.mpr long]
      · simp [broken, empty, long, Nat.not_le.mp long, start]

/-- A slash at the end of a path leads no further. -/
theorem approach_steps {here : Location} (path : Path) :
    tree.approach links here path.steps = tree.approach links here path.way := by
  rw [Path.steps_eq, approach_append]
  cases tree.approach links here path.way with
  | error error => rfl
  | ok way => split <;> simp [Except.bind, approach]

/-- **A path that leads to a directory** is short and unbroken, and its way leads there. -/
theorem resolve_directory_iff {path : Path} {home : Location} :
    tree.resolve cwd .look path = .ok (.directory home) ↔
      0 ∉ path ∧ path ≠ [] ∧ path.length < 4096 ∧
        ∃ left, tree.approach 40 (start cwd path) path.way = .ok (left, home) := by
  constructor
  · intro resolved
    obtain ⟨clean, nonempty, short, walked⟩ := resolve_eq_ok_iff.mp resolved
    obtain ⟨left, approached⟩ := approach_of_walk walked
    exact ⟨clean, nonempty, short, left, approach_steps path ▸ approached⟩
  · rintro ⟨clean, nonempty, short, left, approached⟩
    have walked := walk_of_approach ((approach_steps path).trans approached)
    exact resolve_eq_ok_iff.mpr ⟨clean, nonempty, short, walked⟩

/-- **A path that names a file** has nothing behind its last name. -/
theorem trail_eq_nil_of_resolve {path : Path} {leaf : Path.Leaf} {location : Location}
    {content : Bytes} (resolved : tree.resolve cwd .remove path = .ok (.file location content))
    (found : path.leaf? = some leaf) : leaf.trail = [] := by
  obtain ⟨split, -, -, isIdle⟩ := Path.eq_of_leaf? found
  obtain ⟨-, -, -, walked⟩ := resolve_eq_ok_iff.mp resolved
  have behind : ∀ step : Step, step = .stay ∨ step = .slash → ∀ front : List Step,
      path.steps ≠ front ++ [step] := by
    intro step idle front steps
    rw [steps, walk_append _ (by simp) (by simp)] at walked
    cases approached : tree.approach 40 (start cwd path) front with
    | error error =>
      rw [approached] at walked
      cases walked
    | ok way =>
      rw [approached] at walked
      rcases idle with rfl | rfl <;> simp [Except.bind, walk] at walked
  rcases isIdle.isTrail with none | slashed | ⟨outer, dotted⟩
  · exact none
  · refine absurd ?_ (behind .slash (.inr rfl) path.way)
    have last : path.getLast? = some slash := by
      rw [split, List.getLast?_append, List.getLast?_append, slashed]
      rfl
    rw [Path.steps_eq, if_pos last]
  · have shape : path = (leaf.front ++ leaf.name ++ outer) ++ slash :: [Path.dot] := by
      rw [split, dotted]
      simp
    refine absurd ?_ (behind .stay (.inl rfl) (Path.way (leaf.front ++ leaf.name ++ outer)))
    rw [shape, Path.steps_eq, Path.way, segments_append, List.filterMap_append]
    simp [Path.way, segments, Step.ofSegment?, slash, Path.dot]

/-- Whether a front leads to a directory, with so many links left to follow. -/
structure Reaches (tree : FileTree) (cwd : Location) (front : Path) (links : Nat)
    (parent : Location) : Prop where
  isFront : IsFront front
  clean : 0 ∉ front
  approached : tree.approach 40 (start cwd front) front.way = .ok (links, parent)

namespace Reaches

theorem congr (same : SameFrame tree other) (reaches : Reaches tree cwd front links parent) :
    Reaches other cwd front links parent :=
  { reaches with approached := approach_congr same reaches.approached }

/-- **A front with a word behind it** leads where the word leads from the directory of the front. -/
theorem resolve_eq (reaches : Reaches tree cwd front links parent) {word : Bytes}
    (isWord : IsWord word) (clean : 0 ∉ word) :
    tree.resolve cwd purpose (front ++ word) =
      if 4096 ≤ (front ++ word).length then .error .nameTooLong
      else tree.walk purpose links parent [Step.ofWord word] := by
  have unbroken : (front ++ word).contains 0 = false := by
    simp [reaches.clean, clean]
  have nonempty : front ++ word ≠ [] := by simp [isWord.nonempty]
  have unslashed : [Step.ofWord word] ≠ [.slash] := by
    unfold Step.ofWord
    split <;> simp
  rw [resolve, unbroken, Path.isAbsolute_append isWord, Path.steps_append reaches.isFront isWord,
    walk_append _ (by simp) fun _ => unslashed]
  simp only [Bool.false_eq_true, if_false, nonempty]
  congr 1
  rw [show (if front.isAbsolute then [] else cwd) = start cwd front from rfl, reaches.approached]
  rfl

/-- A word that is the name of no link leads to what stands under it. -/
theorem resolve_name (reaches : Reaches tree cwd front links parent) {name : Name}
    (unfollowed : purpose = .remove ∨ ∀ target, tree.get? (name :: parent) ≠ some (.link target)) :
    tree.resolve cwd purpose (front ++ name.bytes) =
      if 4096 ≤ (front ++ name.bytes).length then .error .nameTooLong
      else .ok (tree.placeAt parent name) := by
  rw [reaches.resolve_eq name.isWord name.zero_notMem, Step.ofWord_bytes, walk_name unfollowed]

end Reaches

/-! ### Reading at a name -/

/-- The content of the file at a location. -/
def contentAt (tree : FileTree) (location : Location) : Except FileError Bytes :=
  match tree.get? location with
  | some (.file content) => .ok content
  | some .directory => .error .isDirectory
  | _ => .error .missing

theorem contentAt_of_file {location : Location} {content : Bytes}
    (present : tree.get? location = some (.file content)) :
    tree.contentAt location = .ok content := by
  rw [contentAt, present]

theorem contentAt_of_none {location : Location} (absent : tree.get? location = none) :
    tree.contentAt location = .error .missing := by
  rw [contentAt, absent]

theorem read_of_resolve {path : Path} {name : Name}
    (resolved : tree.resolve cwd .look path = .ok (tree.placeAt parent name)) :
    tree.read cwd path = tree.contentAt (name :: parent) := by
  rw [read, resolved, placeAt, contentAt]
  cases tree.get? (name :: parent) with
  | none => rfl
  | some entry => cases entry <;> rfl

/-- **Reading at a name** gives the content of the file under it. -/
theorem Reaches.read_eq (reaches : Reaches tree cwd front links parent) {name : Name}
    (unlinked : ∀ target, tree.get? (name :: parent) ≠ some (.link target))
    (short : (front ++ name.bytes).length < 4096) :
    tree.read cwd (front ++ name.bytes) = tree.contentAt (name :: parent) := by
  refine read_of_resolve ?_
  rw [reaches.resolve_name (.inr unlinked), if_neg (by omega)]

/-! ### Writing -/

variable [Host]

/-- The location that writing to a path sets. -/
def writeTarget (tree : FileTree) (cwd : Location) (path : Path) : Except FileError Location :=
  match tree.resolve cwd .create path with
  | .error error => .error error
  | .ok place =>
    match place.target? with
    | some location => Host.grant (Host.unwritten? location) location
    | none => .error .isDirectory

/-- **Writing sets a location** when the path leads there and the host grants it. -/
theorem writeTarget_eq_ok_iff {path : Path} {location : Location} :
    tree.writeTarget cwd path = .ok location ↔ ∃ place, tree.resolve cwd .create path = .ok place ∧
      place.target? = some location ∧ Host.unwritten? location = none := by
  rw [writeTarget]
  cases tree.resolve cwd .create path with
  | error error => simp
  | ok place =>
    cases target : place.target? with
    | none => simp [target]
    | some found =>
      simp only [Host.grant_eq_ok_iff, Except.ok.injEq, exists_eq_left', target, Option.some.injEq]
      constructor
      · rintro ⟨granted, rfl⟩
        exact ⟨rfl, granted⟩
      · rintro ⟨rfl, granted⟩
        exact ⟨granted, rfl⟩

/-- **Writing** sets a file at one location. -/
theorem write_eq (tree : FileTree) (cwd : Location) (path : Path) (content : Bytes) :
    tree.write cwd path content =
      (tree.writeTarget cwd path).map fun location => tree.put location (.file content) := by
  rw [write, writeTarget]
  cases tree.resolve cwd .create path with
  | error error => rfl
  | ok place =>
    cases place with
    | directory | link => rfl
    | file | vacant => simp only [Place.target?, Host.map_grant]

omit [Host] in
theorem target?_placeAt (tree : FileTree) {parent : Location} {name : Name}
    (unlinked : ∀ target, tree.get? (name :: parent) ≠ some (.link target)) :
    (tree.placeAt parent name).target? =
      if tree.get? (name :: parent) = some .directory then none else some (name :: parent) := by
  rw [placeAt]
  cases present : tree.get? (name :: parent) with
  | none => rfl
  | some entry =>
    cases entry with
    | directory => rfl
    | file content => rfl
    | link target => exact absurd present (unlinked target)

/-- **Writing at a name** that is no link. -/
theorem Reaches.writeTarget_eq (reaches : Reaches tree cwd front links parent) {word : Bytes}
    (isWord : IsWord word) (clean : 0 ∉ word)
    (unlinked : ∀ name target, Name.ofBytes? word = some name → (front ++ word).length < 4096 →
      tree.get? (name :: parent) ≠ some (.link target)) :
    tree.writeTarget cwd (front ++ word) =
      if 4096 ≤ (front ++ word).length then .error .nameTooLong
      else match Name.ofBytes? word with
        | none => .error .nameTooLong
        | some name =>
          if tree.get? (name :: parent) = some .directory then .error .isDirectory
          else Host.grant (Host.unwritten? (name :: parent)) (name :: parent) := by
  rw [writeTarget, reaches.resolve_eq isWord clean]
  by_cases long : 4096 ≤ (front ++ word).length
  · rw [if_pos long, if_pos long]
  · rw [if_neg long, if_neg long, Step.ofWord]
    cases named : Name.ofBytes? word with
    | none => simp [walk]
    | some name =>
      have unlinked := fun target => unlinked name target named (by omega)
      dsimp only
      rw [walk_name (.inr unlinked)]
      dsimp only
      rw [target?_placeAt tree unlinked]
      by_cases directory : tree.get? (name :: parent) = some .directory
      · rw [if_pos directory, if_pos directory]
      · rw [if_neg directory, if_neg directory]

/-- **What is written is read back**: where writing to a path leads, reading it leads in all trees
of the frame. -/
theorem Reaches.read_writeTarget (reaches : Reaches tree cwd front links parent) {word : Bytes}
    (isWord : IsWord word) (clean : 0 ∉ word) (home : tree.get? parent = some .directory)
    {location : Location} (written : tree.writeTarget cwd (front ++ word) = .ok location) :
    TakesFile tree location ∧ ∃ name outer, location = name :: outer ∧
      ∀ other, SameFrame tree other →
        other.resolve cwd .look (front ++ word) = .ok (other.placeAt outer name) := by
  obtain ⟨place, resolved, target, -⟩ := writeTarget_eq_ok_iff.mp written
  rw [reaches.resolve_eq isWord clean] at resolved
  by_cases long : 4096 ≤ (front ++ word).length
  · rw [if_pos long] at resolved
    cases resolved
  · rw [if_neg long] at resolved
    obtain ⟨name, outer, rfl, leads⟩ := leadsTo_of_walk resolved target
    refine ⟨leads.takesFile home, name, outer, rfl, fun other same => ?_⟩
    rw [(reaches.congr same).resolve_eq isWord clean, if_neg long]
    exact leads.looks other same

/-! ### Removing -/

/-- **Removing at a name** takes away the file under it, when the host grants that. -/
theorem Reaches.remove_eq (reaches : Reaches tree cwd front links parent) {name : Name}
    {content : Bytes} (present : tree.get? (name :: parent) = some (.file content))
    (short : (front ++ name.bytes).length < 4096) :
    tree.remove cwd (front ++ name.bytes) =
      Host.grant (Host.unremoved? parent) (tree.erase (name :: parent)) := by
  rw [remove, reaches.resolve_name (.inl rfl), if_neg (by omega), placeAt, present]
  rfl

end FileTree

end Retarget
