/-
**What a look finds.**

A look at a path goes from one directory to the next, or from a link to its target, and comes to
rest where the steps of the path are used up or the next one cannot be made. There it finds a
directory, a file or nothing, or an obstacle: a file that has to be entered, a name that is too
long, or a link too many.

* `FileTree.Stand` and `FileTree.Proceeds`: a place on the way, and the next one;
* `FileTree.Settles`: where the way ends, and what is found there;
* `FileTree.walk_look_eq_iff`: a walk finds what stands at the end of its way;
* `FileTree.Obstructed` and `FileTree.obstructed_iff`: the paths of which a look tells neither what
  stands there nor that nothing does.
-/

import Mathlib.Logic.Relation
import Retarget.Proofs.FileTree.Named

namespace Retarget.FileTree

open Relation (ReflTransGen)

variable {tree : FileTree} {cwd here : Location} {path : Path} {links : Nat} {steps : List Step}
  {result : Except FileError Place} {error : FileError}

/-- A place on a way: the links that may still be followed, the directory that is reached, and the
steps that are left. -/
structure Stand where
  links : Nat
  here : Location
  steps : List Step

/-- The place where a path starts. -/
def Stand.ofPath (cwd : Location) (path : Path) : Stand := ⟨40, start cwd path, path.steps⟩

/-- The next place on a way: through a directory, or along a link. -/
inductive Proceeds (tree : FileTree) : Stand → Stand → Prop
  | stay {links : Nat} {here : Location} {rest : List Step} :
      Proceeds tree ⟨links, here, .stay :: rest⟩ ⟨links, here, rest⟩
  | slash {links : Nat} {here : Location} {rest : List Step} :
      Proceeds tree ⟨links, here, .slash :: rest⟩ ⟨links, here, rest⟩
  | up {links : Nat} {here : Location} {rest : List Step} :
      Proceeds tree ⟨links, here, .up :: rest⟩ ⟨links, here.tail, rest⟩
  | enter {links : Nat} {here : Location} {name : Name} {rest : List Step}
      (directory : tree.get? (name :: here) = some .directory) :
      Proceeds tree ⟨links, here, .enter name :: rest⟩ ⟨links, name :: here, rest⟩
  | follow {links : Nat} {here : Location} {name : Name} {rest : List Step} {target : Path}
      (link : tree.get? (name :: here) = some (.link target)) :
      Proceeds tree ⟨links + 1, here, .enter name :: rest⟩
        ⟨links, start here target, target.steps ++ rest⟩

/-- Where a way ends, and what is found there. -/
inductive Settles (tree : FileTree) : Stand → Except FileError Place → Prop
  | arrived {links : Nat} {here : Location} :
      Settles tree ⟨links, here, []⟩ (.ok (.directory here))
  | vacant {links : Nat} {here : Location} {name : Name}
      (absent : tree.get? (name :: here) = none) :
      Settles tree ⟨links, here, [.enter name]⟩ (.ok (.vacant here name))
  | file {links : Nat} {here : Location} {name : Name} {content : Bytes}
      (present : tree.get? (name :: here) = some (.file content)) :
      Settles tree ⟨links, here, [.enter name]⟩ (.ok (.file (name :: here) content))
  /-- Nothing stands where more steps are left. -/
  | missing {links : Nat} {here : Location} {name : Name} {rest : List Step}
      (absent : tree.get? (name :: here) = none) (more : rest ≠ []) :
      Settles tree ⟨links, here, .enter name :: rest⟩ (.error .missing)
  /-- A file stands where more steps are left. -/
  | notDirectory {links : Nat} {here : Location} {name : Name} {rest : List Step} {content : Bytes}
      (present : tree.get? (name :: here) = some (.file content)) (more : rest ≠ []) :
      Settles tree ⟨links, here, .enter name :: rest⟩ (.error .notDirectory)
  | nameTooLong {links : Nat} {here : Location} {rest : List Step} :
      Settles tree ⟨links, here, .tooLong :: rest⟩ (.error .nameTooLong)
  /-- A link stands there, and no more links may be followed. -/
  | linkLoop {here : Location} {name : Name} {rest : List Step} {target : Path}
      (link : tree.get? (name :: here) = some (.link target)) :
      Settles tree ⟨0, here, .enter name :: rest⟩ (.error .linkLoop)

/-! ### Looking is going on to the end -/

/-- The next place on a way is looked at with the same result. -/
theorem Proceeds.walk_eq {stand next : Stand} (proceeds : Proceeds tree stand next) :
    tree.walk .look stand.links stand.here stand.steps =
      tree.walk .look next.links next.here next.steps := by
  cases proceeds with
  | stay | slash | up => rw [walk]
  | enter directory => simp [walk, directory]
  | follow link => simp [walk, link, start]

/-- What is found at the end of a way is the result there. -/
theorem Settles.walk_eq {stand : Stand} (settles : Settles tree stand result) :
    tree.walk .look stand.links stand.here stand.steps = result := by
  cases settles with
  | arrived => rw [walk]
  | vacant absent => simp [walk, absent]
  | file present => simp [walk, present]
  | missing absent more => simp [walk, absent, more]
  | notDirectory present more => simp [walk, present, more]
  | nameTooLong => simp [walk]
  | linkLoop link => simp [walk, link]

/-- Whether a way ends where the result of its walk is found. -/
def Stand.Ends (tree : FileTree) (stand : Stand) : Prop :=
  ∃ last, ReflTransGen (Proceeds tree) stand last ∧
    Settles tree last (tree.walk .look stand.links stand.here stand.steps)

theorem Settles.ends {stand : Stand} (settles : Settles tree stand result) : stand.Ends tree :=
  ⟨stand, .refl, settles.walk_eq ▸ settles⟩

theorem Proceeds.ends {stand next : Stand} (proceeds : Proceeds tree stand next)
    (further : next.Ends tree) : stand.Ends tree := by
  obtain ⟨last, reaches, settles⟩ := further
  exact ⟨last, .head proceeds reaches, proceeds.walk_eq ▸ settles⟩

/-- **A way comes to an end.** -/
theorem Stand.ends (tree : FileTree) (links : Nat) (here : Location) (steps : List Step) :
    Stand.Ends tree ⟨links, here, steps⟩ := by
  -- `approach` goes on where the way does, and stops where it ends.
  fun_induction approach tree links here steps with
  | case1 links here => exact Settles.ends .arrived
  | case2 links here rest ih => exact Proceeds.ends .stay ih
  | case3 links here rest ih => exact Proceeds.ends .slash ih
  | case4 links here rest ih => exact Proceeds.ends .up ih
  | case5 links here rest => exact Settles.ends .nameTooLong
  | case6 links here name rest absent =>
    by_cases last : rest = []
    · subst last
      exact Settles.ends (.vacant absent)
    · exact Settles.ends (.missing absent last)
  | case7 links here name rest directory ih => exact Proceeds.ends (.enter directory) ih
  | case8 links here name rest content present =>
    by_cases last : rest = []
    · subst last
      exact Settles.ends (.file present)
    · exact Settles.ends (.notDirectory present last)
  | case9 here name rest target link => exact Settles.ends (.linkLoop link)
  | case10 here name rest target link links ih => exact Proceeds.ends (.follow link) ih

/-- **A walk finds** what stands at the end of its way. -/
theorem walk_look_eq_iff : tree.walk .look links here steps = result ↔
    ∃ stand, ReflTransGen (Proceeds tree) ⟨links, here, steps⟩ stand ∧
      Settles tree stand result := by
  constructor
  · rintro rfl
    exact Stand.ends tree links here steps
  · rintro ⟨stand, reaches, settles⟩
    have same : ∀ first, ReflTransGen (Proceeds tree) first stand →
        tree.walk .look first.links first.here first.steps = result := by
      intro first reaches
      induction reaches using ReflTransGen.head_induction_on with
      | refl => exact settles.walk_eq
      | head proceeds _ ih => rw [proceeds.walk_eq, ih]
    exact same _ reaches

/-- A walk that only looks ends at no link. -/
theorem walk_look_ne_link {location : Location} {target : Path} :
    tree.walk .look links here steps ≠ .ok (.link location target) := by
  intro walked
  obtain ⟨stand, -, settles⟩ := walk_look_eq_iff.mp walked
  cases settles

theorem resolve_look_ne_link {location : Location} {target : Path} :
    tree.resolve cwd .look path ≠ .ok (.link location target) :=
  fun resolved => walk_look_ne_link (resolve_eq_ok_iff.mp resolved).2.2.2

/-! ### Obstacles -/

/-- **What obstructs a path**: it is too long itself, or its way ends at a file that has to be
entered, at a name that is too long, or at a link too many. -/
inductive Obstructed (tree : FileTree) (cwd : Location) (path : Path) : FileError → Prop
  | tooLong (long : 4096 ≤ path.length) : Obstructed tree cwd path .nameTooLong
  | blocked {stand : Stand} {error : FileError} (short : path.length < 4096)
      (reaches : ReflTransGen (Proceeds tree) (.ofPath cwd path) stand)
      (settles : Settles tree stand (.error error)) (there : error ≠ .missing) :
      Obstructed tree cwd path error

/-- When a look at a path without zero bytes fails. -/
theorem resolve_look_eq_error_iff (clean : 0 ∉ path) :
    tree.resolve cwd .look path = .error error ↔
      path = [] ∧ error = .missing ∨ 4096 ≤ path.length ∧ error = .nameTooLong ∨
        path ≠ [] ∧ path.length < 4096 ∧
          tree.walk .look 40 (start cwd path) path.steps = .error error := by
  rw [resolve]
  by_cases empty : path = []
  · simp [empty, eq_comm]
  · by_cases long : 4096 ≤ path.length
    · simp [clean, empty, long, Nat.not_lt.mpr long, eq_comm]
    · simp [clean, empty, long, Nat.not_le.mp long, start]

/-- A way without steps leads to no obstacle. -/
theorem ne_nil_of_settles {stand : Stand}
    (reaches : ReflTransGen (Proceeds tree) (.ofPath cwd path) stand)
    (settles : Settles tree stand (.error error)) : path ≠ [] := by
  rintro rfl
  have walked : tree.walk .look 40 (start cwd []) [] = .error error :=
    walk_look_eq_iff.mpr ⟨stand, reaches, settles⟩
  rw [walk] at walked
  cases walked

/-- **What obstructs a path** is the error of a look that is not that nothing is there. -/
theorem obstructed_iff (clean : 0 ∉ path) : Obstructed tree cwd path error ↔
    tree.resolve cwd .look path = .error error ∧ error ≠ .missing := by
  rw [resolve_look_eq_error_iff clean, walk_look_eq_iff]
  constructor
  · rintro (long | ⟨short, reaches, settles, there⟩)
    · exact ⟨.inr (.inl ⟨long, rfl⟩), by decide⟩
    · exact ⟨.inr (.inr ⟨ne_nil_of_settles reaches settles, short, _, reaches, settles⟩), there⟩
  · rintro ⟨⟨-, rfl⟩ | ⟨long, rfl⟩ | ⟨-, short, stand, reaches, settles⟩, there⟩
    · exact absurd rfl there
    · exact .tooLong long
    · exact .blocked short reaches settles there

/-- Three errors obstruct a path. -/
theorem Obstructed.cases_error (obstructed : Obstructed tree cwd path error) :
    error = .notDirectory ∨ error = .nameTooLong ∨ error = .linkLoop := by
  cases obstructed with
  | tooLong => exact .inr (.inl rfl)
  | blocked _ _ settles there =>
    cases settles with
    | missing => exact absurd rfl there
    | notDirectory => exact .inl rfl
    | nameTooLong => exact .inr (.inl rfl)
    | linkLoop => exact .inr (.inr rfl)

end Retarget.FileTree
