/-
**Trees without links.**

Where no links are, the steps of a path say alone which directory they lead to: a tree decides only
whether they lead there. So two such trees in which a root can be found find it at one location, and
a path to a name is answered alike by both when they agree on what stands in its directory.

* `FileTree.follow` and `FileTree.approach_eq_of_isPlain`: where steps lead;
* `Discovery.locate_eq_of_isPlain`: where a root stands;
* `FileTree.Reaches.resolve_alike`: paths in two trees that agree on a directory.
-/

import Retarget.Proofs.Discovery.Selected

namespace Retarget

namespace FileTree

variable {tree other : FileTree} {links links' : Nat} {here cwd parent : Location} {front : Path}

theorem IsPlain.congr (same : SameFrame tree other) (plain : tree.IsPlain) : other.IsPlain :=
  fun location target link => plain location target ((same.link_iff location target).mpr link)

/-- Where steps lead through directories. -/
def follow (here : Location) : List Step → Location
  | [] => here
  | .stay :: rest | .slash :: rest | .tooLong :: rest => follow here rest
  | .up :: rest => follow here.tail rest
  | .enter name :: rest => follow (name :: here) rest

/-- **An approach without links** leads where its steps say. -/
theorem approach_eq_of_isPlain (plain : tree.IsPlain) {steps : List Step} {way : Nat × Location}
    (approached : tree.approach links here steps = .ok way) : way = (links, follow here steps) := by
  fun_induction approach tree links here steps with
  | case1 links here => exact (Except.ok.inj approached).symm
  | case2 links here rest ih | case3 links here rest ih | case4 links here rest ih =>
    exact ih approached
  | case5 | case6 | case8 | case9 => cases approached
  | case7 links here name rest directory ih => exact ih approached
  | case10 here name rest target link => exact absurd link (plain _ target)

/-- A word without links leads to what stands under it. -/
theorem walk_word_of_isPlain (plain : tree.IsPlain) (purpose : Purpose) (word : Bytes) :
    tree.walk purpose links here [Step.ofWord word] =
      match Name.ofBytes? word with
      | some name => .ok (tree.placeAt here name)
      | none => .error .nameTooLong := by
  rw [Step.ofWord]
  cases Name.ofBytes? word with
  | none => simp [walk]
  | some name => exact walk_name (.inr fun target => plain _ target)

/-- **A path to a word** leads to the same in two trees that agree on what stands in its
directory. -/
theorem Reaches.resolve_alike (reaches : tree.Reaches cwd front links parent)
    (reaches' : other.Reaches cwd front links' parent) (plain : tree.IsPlain)
    (plain' : other.IsPlain)
    (alike : ∀ name, other.get? (name :: parent) = tree.get? (name :: parent)) {word : Bytes}
    (isWord : Path.IsWord word) (clean : 0 ∉ word) (purpose : Purpose) :
    other.resolve cwd purpose (front ++ word) = tree.resolve cwd purpose (front ++ word) := by
  rw [reaches.resolve_eq isWord clean, reaches'.resolve_eq isWord clean,
    walk_word_of_isPlain plain, walk_word_of_isPlain plain']
  simp only [placeAt, alike]

end FileTree

/-- **A root that is found in two trees without links** stands at one location. -/
theorem Discovery.locate_eq_of_isPlain {tree other : FileTree} {cwd home home' : Location}
    {root : Path} (plain : tree.IsPlain) (plain' : other.IsPlain)
    (located : locate tree cwd root = .ok home) (located' : locate other cwd root = .ok home') :
    home' = home := by
  obtain ⟨-, -, links, approached⟩ := reaches_root located
  obtain ⟨-, -, links', approached'⟩ := reaches_root located'
  have leads := FileTree.approach_eq_of_isPlain plain approached
  have leads' := FileTree.approach_eq_of_isPlain plain' approached'
  exact (Prod.mk.inj leads').2.trans (Prod.mk.inj leads).2.symm

end Retarget
