/-
**The way to the directory of a path.**

All purposes follow the steps before the last one in the same manner, through directories and links
only. So where these steps lead is decided by the frame of the tree.

* `FileTree.approach`: the steps to a directory, with the links that may still be followed;
* `FileTree.walk_append`: a walk is an approach and then the rest of the steps;
* `FileTree.approach_congr`: an approach is the same in all trees of one frame;
* `FileTree.approach_of_walk` and `FileTree.walk_of_approach`: a walk that ends at a directory;
* `FileTree.leadsTo_of_walk`: where writing leads in one tree, looking leads in all trees of its
  frame.
-/

import Retarget.Proofs.FileTree.Frame

namespace Retarget

/-- The location that writing to a place sets. -/
def Place.target? : Place → Option Location
  | .file location _ => some location
  | .vacant parent name => some (name :: parent)
  | .directory _ | .link _ _ => none

namespace FileTree

/-- Where the steps of a path start. -/
def start (cwd : Location) (path : Path) : Location := if path.isAbsolute then [] else cwd

/-- Follows steps from the directory `here` to a directory, and counts the links that are left. -/
def approach (tree : FileTree) (links : Nat) (here : Location) :
    List Step → Except FileError (Nat × Location)
  | [] => .ok (links, here)
  | .stay :: rest | .slash :: rest => tree.approach links here rest
  | .up :: rest => tree.approach links here.tail rest
  | .tooLong :: _ => .error .nameTooLong
  | .enter name :: rest =>
    match tree.get? (name :: here) with
    | none => .error .missing
    | some .directory => tree.approach links (name :: here) rest
    | some (.file _) => .error .notDirectory
    | some (.link target) =>
      match links with
      | 0 => .error .linkLoop
      | links + 1 => tree.approach links (start here target) (Path.steps target ++ rest)
termination_by steps => (links, steps.length)

variable {tree other : FileTree} {purpose : Purpose} {links : Nat} {here : Location}

/-- The steps before the last one are followed for all purposes alike. -/
theorem walk_enter {name : Name} {rest : List Step} (more : rest ≠ [])
    (further : purpose = .create → rest ≠ [.slash]) :
    tree.walk purpose links here (.enter name :: rest) =
      match tree.get? (name :: here) with
      | none => .error .missing
      | some .directory => tree.walk purpose links (name :: here) rest
      | some (.file _) => .error .notDirectory
      | some (.link target) =>
        match links with
        | 0 => .error .linkLoop
        | links + 1 => tree.walk purpose links (start here target) (Path.steps target ++ rest) := by
  have unslashed : ¬ (purpose = .create ∧ rest = [.slash]) := fun both => further both.1 both.2
  rw [walk.eq_def]
  simp only [more, unslashed, and_false, if_false]
  rfl

/-- **A walk** is an approach and then the rest of its steps. -/
theorem walk_append (front : List Step) {behind : List Step} (more : behind ≠ [])
    (further : purpose = .create → behind ≠ [.slash]) :
    tree.walk purpose links here (front ++ behind) =
      (tree.approach links here front).bind fun way =>
        tree.walk purpose way.1 way.2 behind := by
  have longer : ∀ rest : List Step,
      rest ++ behind ≠ [] ∧ (purpose = .create → rest ++ behind ≠ [.slash]) := by
    intro rest
    refine ⟨by simp [more], fun create same => ?_⟩
    cases rest with
    | nil => exact further create same
    | cons first rest => exact more (List.append_eq_nil_iff.mp (List.cons.inj same).2).2
  fun_induction approach tree links here front with
  | case1 links here => rfl
  | case2 links here rest ih | case3 links here rest ih => rw [List.cons_append, walk, ih]
  | case4 links here rest ih => rw [List.cons_append, walk, ih]
  | case5 links here rest =>
    have unslashed : ¬ (purpose = .create ∧ rest ++ behind = [.slash]) :=
      fun both => (longer rest).2 both.1 both.2
    rw [List.cons_append, walk, if_neg unslashed]
    rfl
  | case6 links here name rest absent =>
    rw [List.cons_append, walk_enter (longer rest).1 (longer rest).2, absent]
    rfl
  | case7 links here name rest directory ih =>
    rw [List.cons_append, walk_enter (longer rest).1 (longer rest).2, directory]
    exact ih
  | case8 links here name rest content file =>
    rw [List.cons_append, walk_enter (longer rest).1 (longer rest).2, file]
    rfl
  | case9 here name rest target link =>
    rw [List.cons_append, walk_enter (longer rest).1 (longer rest).2, link]
    rfl
  | case10 here name rest target link links ih =>
    rw [List.cons_append, walk_enter (longer rest).1 (longer rest).2, link]
    rw [List.append_assoc] at ih
    exact ih

/-- An approach in two parts. -/
theorem approach_append (front behind : List Step) :
    tree.approach links here (front ++ behind) =
      (tree.approach links here front).bind fun way => tree.approach way.1 way.2 behind := by
  fun_induction approach tree links here front with
  | case1 links here => rfl
  | case2 links here rest ih | case3 links here rest ih => rw [List.cons_append, approach, ih]
  | case4 links here rest ih => rw [List.cons_append, approach, ih]
  | case5 links here rest =>
    rw [List.cons_append, approach]
    rfl
  | case6 links here name rest absent =>
    rw [List.cons_append, approach, absent]
    rfl
  | case7 links here name rest directory ih =>
    rw [List.cons_append, approach, directory]
    exact ih
  | case8 links here name rest content file =>
    rw [List.cons_append, approach, file]
    rfl
  | case9 here name rest target link =>
    rw [List.cons_append, approach, link]
    rfl
  | case10 here name rest target link links ih =>
    rw [List.cons_append, approach, link]
    rw [List.append_assoc] at ih
    exact ih

/-- An approach in two parts succeeds when both succeed. -/
theorem approach_append_eq_ok_iff {front behind : List Step} {way : Nat × Location} :
    tree.approach links here (front ++ behind) = .ok way ↔
      ∃ between, tree.approach links here front = .ok between ∧
        tree.approach between.1 between.2 behind = .ok way := by
  rw [approach_append]
  cases tree.approach links here front <;> simp [Except.bind]

/-- **An approach that succeeds** is the same in all trees of one frame. -/
theorem approach_congr (same : SameFrame tree other) {steps : List Step} {way : Nat × Location}
    (approached : tree.approach links here steps = .ok way) :
    other.approach links here steps = .ok way := by
  fun_induction approach tree links here steps with
  | case1 links here => rwa [approach]
  | case2 links here rest ih | case3 links here rest ih | case4 links here rest ih =>
    rw [approach, ih approached]
  | case5 | case6 | case8 | case9 => cases approached
  | case7 links here name rest directory ih =>
    rw [approach, (same.directory_iff _).mp directory]
    exact ih approached
  | case10 here name rest target link links ih =>
    rw [approach, (same.link_iff _ _).mp link]
    exact ih approached

theorem get?_start {cwd : Location} (home : tree.get? cwd = some .directory) (path : Path) :
    tree.get? (start cwd path) = some .directory := by
  unfold start
  split
  · rfl
  · exact home

/-- A walk that ends at a directory is an approach to it. -/
theorem approach_of_walk {steps : List Step} {home : Location}
    (walked : tree.walk .look links here steps = .ok (.directory home)) :
    ∃ left, tree.approach links here steps = .ok (left, home) := by
  fun_induction approach tree links here steps with
  | case1 links here =>
    rw [walk] at walked
    cases walked
    exact ⟨links, rfl⟩
  | case2 links here rest ih | case3 links here rest ih | case4 links here rest ih =>
    rw [walk] at walked
    exact ih walked
  | case5 links here rest =>
    rw [walk] at walked
    cases walked
  | case6 links here name rest absent =>
    rw [walk, absent] at walked
    by_cases last : rest = [] <;> simp [last] at walked
  | case7 links here name rest directory ih =>
    rw [walk, directory] at walked
    exact ih (by simpa using walked)
  | case8 links here name rest content file =>
    rw [walk, file] at walked
    by_cases last : rest = [] <;> simp [last] at walked
  | case9 here name rest target link =>
    rw [walk, link] at walked
    simp at walked
  | case10 here name rest target link links ih =>
    rw [walk, link] at walked
    exact ih (by simpa [start] using walked)

/-- An approach is a walk to its directory. -/
theorem walk_of_approach {steps : List Step} {left : Nat} {home : Location}
    (approached : tree.approach links here steps = .ok (left, home)) :
    tree.walk .look links here steps = .ok (.directory home) := by
  fun_induction approach tree links here steps with
  | case1 links here =>
    cases approached
    rw [walk]
  | case2 links here rest ih | case3 links here rest ih | case4 links here rest ih =>
    rw [walk]
    exact ih approached
  | case5 | case6 | case8 | case9 => cases approached
  | case7 links here name rest directory ih =>
    rw [walk, directory]
    simpa using ih approached
  | case10 here name rest target link links ih =>
    rw [walk, link]
    simpa [start] using ih approached

/-- An approach uses up links, and with more links it leads to the same directory and leaves no
fewer. -/
theorem approach_of_le {steps : List Step} {left more : Nat} {home : Location}
    (approached : tree.approach links here steps = .ok (left, home)) (enough : links ≤ more) :
    left ≤ links ∧ ∃ left', left ≤ left' ∧ tree.approach more here steps = .ok (left', home) := by
  fun_induction approach tree links here steps generalizing more with
  | case1 links here =>
    cases approached
    exact ⟨Nat.le_refl _, more, enough, by rw [approach]⟩
  | case2 links here rest ih | case3 links here rest ih | case4 links here rest ih =>
    rw [approach]
    exact ih approached enough
  | case5 | case6 | case8 | case9 => cases approached
  | case7 links here name rest directory ih =>
    rw [approach, directory]
    exact ih approached enough
  | case10 here name rest target link links ih =>
    cases more with
    | zero => exact absurd enough (Nat.not_succ_le_zero _)
    | succ fewer =>
      obtain ⟨used, further⟩ := ih approached (Nat.le_of_succ_le_succ enough)
      rw [approach, link]
      exact ⟨Nat.le_succ_of_le used, further⟩

/-! ### The last step -/

/-- What stands under a name in a directory. -/
def placeAt (tree : FileTree) (parent : Location) (name : Name) : Place :=
  match tree.get? (name :: parent) with
  | none => .vacant parent name
  | some .directory => .directory (name :: parent)
  | some (.file content) => .file (name :: parent) content
  | some (.link target) => .link (name :: parent) target

theorem placeAt_eq_file {parent location : Location} {name : Name} {content : Bytes}
    (place : tree.placeAt parent name = .file location content) :
    location = name :: parent ∧ tree.get? (name :: parent) = some (.file content) := by
  unfold placeAt at place
  split at place
  · cases place
  · cases place
  · next present =>
    cases place
    exact ⟨rfl, present⟩
  · cases place

/-- A last step that follows no link ends at what stands under its name. -/
theorem walk_name {name : Name}
    (unfollowed : purpose = .remove ∨ ∀ target, tree.get? (name :: here) ≠ some (.link target)) :
    tree.walk purpose links here [.enter name] = .ok (tree.placeAt here name) := by
  rw [walk, placeAt]
  cases present : tree.get? (name :: here) with
  | none => simp
  | some entry =>
    cases entry with
    | directory => simp [walk]
    | file content => simp
    | link target =>
      rcases unfollowed with rfl | unlinked
      · simp
      · exact absurd present (unlinked target)

/-- Whether steps lead to a name in a directory, where a file may be written: looking leads there in
all trees of the frame. -/
structure LeadsTo (tree : FileTree) (links : Nat) (here : Location) (steps : List Step)
    (parent : Location) (name : Name) : Prop where
  unlinked : ∀ target, tree.get? (name :: parent) ≠ some (.link target)
  free : tree.get? (name :: parent) ≠ some .directory
  housed : tree.get? here = some .directory → tree.get? parent = some .directory
  looks : ∀ other, SameFrame tree other →
    other.walk .look links here steps = .ok (other.placeAt parent name)

/-- A last step to a file or to nothing leads there. -/
theorem leadsTo_name {name : Name}
    (unlinked : ∀ target, tree.get? (name :: here) ≠ some (.link target))
    (free : tree.get? (name :: here) ≠ some .directory) :
    LeadsTo tree links here [.enter name] here name :=
  ⟨unlinked, free, id, fun _ same =>
    walk_name (.inr fun target link => unlinked target ((same.link_iff _ _).mpr link))⟩

/-- A walk for writing that meets no fault does not end behind a slash. -/
theorem not_slash_of_walk {name : Name} {rest : List Step} {place : Place}
    (walked : tree.walk .create links here (.enter name :: rest) = .ok place) : rest ≠ [.slash] := by
  rintro rfl
  rw [walk.eq_def] at walked
  simp at walked

/-- **Where writing leads** in one tree, looking leads in all trees of its frame. -/
theorem leadsTo_of_walk {steps : List Step} {place : Place} {location : Location}
    (walked : tree.walk .create links here steps = .ok place)
    (target : place.target? = some location) :
    ∃ name parent, location = name :: parent ∧ LeadsTo tree links here steps parent name := by
  fun_induction approach tree links here steps with
  | case1 links here =>
    rw [walk] at walked
    cases walked
    cases target
  | case2 links here rest ih | case3 links here rest ih =>
    rw [walk] at walked
    obtain ⟨name, parent, rfl, leads⟩ := ih walked
    exact ⟨name, parent, rfl, { leads with
      looks := fun other same => by rw [walk, leads.looks other same] }⟩
  | case4 links here rest ih =>
    rw [walk] at walked
    obtain ⟨name, parent, rfl, leads⟩ := ih walked
    exact ⟨name, parent, rfl, { leads with
      housed := fun home => leads.housed (tree.get?_tail home)
      looks := fun other same => by rw [walk, leads.looks other same] }⟩
  | case5 links here rest =>
    rw [walk] at walked
    cases walked
  | case6 links here name rest absent =>
    have unslashed := not_slash_of_walk walked
    rw [walk, absent] at walked
    by_cases last : rest = []
    · subst last
      cases walked
      cases target
      exact ⟨name, here, rfl, leadsTo_name (by simp [absent]) (by simp [absent])⟩
    · simp [last, unslashed] at walked
  | case7 links here name rest directory ih =>
    have unslashed := not_slash_of_walk walked
    rw [walk, directory] at walked
    obtain ⟨last, parent, rfl, leads⟩ := ih (by simpa [unslashed] using walked)
    refine ⟨last, parent, rfl, { leads with
      housed := fun _ => leads.housed directory
      looks := fun other same => ?_ }⟩
    rw [walk, (same.directory_iff _).mp directory]
    simpa using leads.looks other same
  | case8 links here name rest content file =>
    have unslashed := not_slash_of_walk walked
    rw [walk, file] at walked
    by_cases last : rest = []
    · subst last
      cases walked
      cases target
      exact ⟨name, here, rfl, leadsTo_name (by simp [file]) (by simp [file])⟩
    · simp [last, unslashed] at walked
  | case9 here name rest target' link =>
    have unslashed := not_slash_of_walk walked
    rw [walk, link] at walked
    simp [unslashed] at walked
  | case10 here name rest target' link links ih =>
    have unslashed := not_slash_of_walk walked
    rw [walk, link] at walked
    obtain ⟨last, parent, rfl, leads⟩ := ih (by simpa [unslashed, start] using walked)
    refine ⟨last, parent, rfl, { leads with
      housed := fun home => leads.housed (get?_start home target')
      looks := fun other same => ?_ }⟩
    rw [walk, (same.link_iff _ _).mp link]
    simpa [start] using leads.looks other same

theorem LeadsTo.takesFile {steps : List Step} {parent : Location} {name : Name}
    (leads : LeadsTo tree links here steps parent name)
    (home : tree.get? here = some .directory) : TakesFile tree (name :: parent) :=
  ⟨⟨leads.housed home, leads.free⟩, leads.unlinked⟩

end FileTree

end Retarget
