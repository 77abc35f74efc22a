/-
**Searching a changed tree.**

Where the root stands and which directories are visited is a matter of the frame. So a search that
succeeds in one tree succeeds in all trees of its frame. What it finds is a list in the order of the
paths, and no two selected files have the same place in that order, so searches that select the same
files find the same list.

* `Discovery.locate_congr`: the root stands at one location in all trees of the frame;
* `Discovery.exists_candidates_congr`: a search succeeds in all trees of the frame;
* `Discovery.components_pathOf`: the components of a path below a root;
* `Discovery.candidates_eq_of_mem_iff`: what is selected determines the list.
-/

import Retarget.Proofs.Discovery.Selected
import Retarget.Proofs.FileTree.Arrival

namespace Retarget.Discovery

open FileTree (SameFrame)

variable {tree other : FileTree} {cwd home : Location} {root : Path} {wanted : List Script.Source}
  {tokens : List String} {list : List Candidate}

/-! ### Searches in trees of one frame -/

/-- **The root** stands at one location in all trees of the frame. -/
theorem locate_congr (same : SameFrame tree other) (located : locate tree cwd root = .ok home) :
    locate other cwd root = .ok home :=
  locate_eq_ok_iff.mpr (FileTree.resolve_congr same rfl (locate_eq_ok_iff.mp located))

variable [Host]

theorem unlisted?_eq_none_iff {visits : List Found} : unlisted? home root visits = none ↔
    refusal? home root [] = none ∧
      ∀ found ∈ visits, found.entry = .directory → refusal? home root found.names = none := by
  simp only [unlisted?, List.findSome?_eq_none_iff, List.forall_mem_cons, List.forall_mem_map,
    List.mem_filter, decide_eq_true_eq, Option.map_eq_none_iff, and_imp]

/-- When a search succeeds: the root is a directory, and it can be listed as well as all directories
that are visited. -/
theorem exists_candidates_iff : (∃ list, candidates tree cwd root wanted tokens = .ok list) ↔
    ∃ home, locate tree cwd root = .ok home ∧ (isStream root = false →
      refusal? home root [] = none ∧ ∀ found ∈ reached tree home, found.entry = .directory →
        refusal? home root found.names = none) := by
  simp only [← unlisted?_eq_none_iff]
  unfold candidates walk
  cases locate tree cwd root with
  | error failure => simp [Except.map]
  | ok home =>
    cases isStream root with
    | true => simp [Except.map]
    | false =>
      cases unlisted : unlisted? home root (reached tree home) with
      | none => simp [Except.map, unlisted]
      | some directory => simp [Except.map, unlisted]

/-- **A search that succeeds** in one tree succeeds in all trees of its frame. -/
theorem exists_candidates_congr (same : SameFrame tree other)
    (found : candidates tree cwd root wanted tokens = .ok list) :
    ∃ list', candidates other cwd root wanted tokens = .ok list' := by
  obtain ⟨home, located, granted⟩ := exists_candidates_iff.mp ⟨list, found⟩
  refine exists_candidates_iff.mpr ⟨home, locate_congr same located, fun streamless => ?_⟩
  obtain ⟨first, below⟩ := granted streamless
  refine ⟨first, ?_⟩
  rintro ⟨names, entry⟩ visited (rfl : entry = .directory)
  obtain ⟨nonempty, stands, visible⟩ := mem_reached.mp visited
  have before := (same.directory_iff _).mpr stands
  exact below ⟨names, .directory⟩ (mem_reached.mpr ⟨nonempty, before, visible⟩) rfl

/-! ### The order of what is found -/

omit [Host] in
/-- **The components of a path below a root** are those of the root and the names. -/
theorem components_pathOf (nonempty : root ≠ []) (names : List Name) :
    (pathOf root names).components = root.components ++ names.map fun name => .name name.bytes := by
  induction names generalizing root with
  | nil => simp [pathOf]
  | cons name rest ih =>
    have deeper : root.under name.bytes ≠ [] := by
      rw [Path.under_eq]
      simp [name.isWord.nonempty]
    calc (pathOf (root.under name.bytes) rest).components
        = (root.under name.bytes).components ++ rest.map fun name => .name name.bytes := ih deeper
      _ = root.components ++ (name :: rest).map fun name => .name name.bytes := by
        rw [Path.components_under nonempty name.isWord]
        simp

omit [Host] in
theorem bytes_injective : Function.Injective Name.bytes := by
  rintro ⟨bytes, proper⟩ ⟨_, _⟩ rfl
  rfl

/-- Selected files whose paths come before each other are one candidate. -/
theorem Selected.eq_of_before {first second : Candidate} {names names' : List Name}
    {content content' : Bytes} (nonempty : root ≠ [])
    (selected : Selected tree home root wanted tokens first names content)
    (selected' : Selected tree home root wanted tokens second names' content')
    (there : first.path.before second.path = true)
    (back : second.path.before first.path = true) : first = second := by
  have parts := Path.components_eq_of_before there back
  rw [selected.path_eq, selected'.path_eq, components_pathOf nonempty, components_pathOf nonempty,
    List.append_cancel_left_eq] at parts
  have same : names = names' :=
    List.map_injective_iff.mpr
      (fun _ _ equal => bytes_injective (Path.Component.name.inj equal)) parts
  subst same
  exact selected.eq_of_names selected'

/-- Candidates are in the order of their paths. -/
theorem pairwise_candidates (found : candidates tree cwd root wanted tokens = .ok list) :
    list.Pairwise fun first second => first.path.before second.path = true := by
  obtain ⟨home, visits, -, -, rfl⟩ := candidates_eq_ok found
  have transitive : ∀ first second third : Candidate, first.path.before second.path = true →
      second.path.before third.path = true → first.path.before third.path = true :=
    fun _ _ _ => Path.before_trans
  have total : ∀ first second : Candidate,
      (first.path.before second.path || second.path.before first.path) = true := by
    intro first second
    rw [Bool.or_eq_true]
    exact Path.before_total first.path second.path
  exact List.pairwise_mergeSort transitive total _

/-- **What is selected determines the list** that a search finds. -/
theorem candidates_eq_of_mem_iff {list' : List Candidate}
    (found : candidates tree cwd root wanted tokens = .ok list)
    (found' : candidates other cwd root wanted tokens = .ok list')
    (alike : ∀ candidate, candidate ∈ list ↔ candidate ∈ list') : list = list' := by
  obtain ⟨home, located⟩ := locate_of_candidates found
  have nonempty := (reaches_root located).1
  have perm : list.Perm list' :=
    (List.perm_ext_iff_of_nodup (nodup_candidates found) (nodup_candidates found')).mpr alike
  refine perm.eq_of_pairwise (fun first second listed listed' there back => ?_)
    (pairwise_candidates found) (pairwise_candidates found')
  obtain ⟨-, names, content, selected⟩ := (mem_candidates found located).mp listed
  obtain ⟨-, names', content', selected'⟩ :=
    (mem_candidates found located).mp ((alike second).mpr listed')
  exact selected.eq_of_before nonempty selected' there back

end Retarget.Discovery
