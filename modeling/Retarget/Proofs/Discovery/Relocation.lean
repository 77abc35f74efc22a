/-
**A search below another root.**

The path of a candidate starts with the root, and the tokens are tested against all of it. So it
matters where the files are: a token that ends some segment of the root stands in front of a `/` in
every path below it, and nothing is selected. When no token does, and no token holds a `/` itself,
what is excluded is a matter of the names below the root only. So are the ending of a name and the
order of two paths below one root, and two roots with the same below them have the same list.

* `Discovery.pathOf_eq_append`: a path below a root is the opened root and a relative path;
* `Discovery.Marks`: some token ends some segment of a root;
* `Discovery.excludes_pathOf_iff`: what is excluded below a root;
* `Discovery.before_pathOf`: the order below a root is the order of the names;
* `Discovery.SameBelow` and `Discovery.Selected.moved`: a selected file below another root;
* `Discovery.candidates_below`: both lists.
-/

import Mathlib
import Retarget.FileTree.Build
import Retarget.Proofs.Discovery.Renewal
import Retarget.Proofs.Ignore.Segmentwise

namespace Retarget

/-! ### Order behind a common front -/

theorem append_left_lt_iff (front first second : List (List Nat)) :
    front ++ first < front ++ second ↔ first < second := by
  refine ⟨fun behind => ?_, List.append_left_lt⟩
  by_contra after
  exact List.not_lt.mpr (List.append_left_le (List.not_lt.mp after)) behind

namespace Discovery

section Roots

variable {tree other : FileTree} {cwd cwd' home home' : Location} {root root' : Path}
  {wanted : List Script.Source} {tokens : List String} {names : List Name}

/-! ### Paths below a root -/

theorem pathOf_append_left (front : Bytes) {base : Path} (nonempty : base ≠ [])
    (names : List Name) : pathOf (front ++ base) names = front ++ pathOf base names := by
  induction names generalizing base with
  | nil => rfl
  | cons name rest ih =>
    have under : Path.under (front ++ base) name.bytes = front ++ base.under name.bytes := by
      simp only [Path.under, List.append_eq_nil_iff, nonempty, and_false, false_or,
        List.getLast?_append_of_ne_nil _ nonempty]
      split <;> simp
    have deeper : base.under name.bytes ≠ [] := by
      rw [Path.under_eq]
      simp [name.isWord.nonempty]
    calc pathOf (Path.under (front ++ base) name.bytes) rest
        = pathOf (front ++ base.under name.bytes) rest := by rw [under]
      _ = front ++ pathOf (base.under name.bytes) rest := ih deeper

/-- **A path below a root** is the opened root and a path that does not depend on the root. -/
theorem pathOf_eq_append (root : Path) (nonempty : names ≠ []) :
    pathOf root names = root.opened ++ pathOf [] names := by
  obtain ⟨name, rest, rfl⟩ := List.exists_cons_of_ne_nil nonempty
  calc pathOf root (name :: rest)
      = pathOf (root.opened ++ name.bytes) rest := by rw [← Path.under_eq]; rfl
    _ = root.opened ++ pathOf name.bytes rest := pathOf_append_left _ name.isWord.nonempty rest

theorem name?_pathOf (root : Path) (outer : List Name) (last : Name) :
    (pathOf root (outer ++ [last])).name? = some last.bytes := by
  rw [pathOf_append]
  exact Path.name?_append (Path.isFront_opened _) last.isWord

/-- **The source that a path names** does not depend on the root. -/
theorem ofPath?_pathOf (root root' : Path) (nonempty : names ≠ []) :
    Script.Source.ofPath? wanted (pathOf root names) =
      Script.Source.ofPath? wanted (pathOf root' names) := by
  obtain ⟨outer, last, rfl⟩ := (List.eq_nil_or_concat' names).resolve_left nonempty
  exact Script.Source.ofPath?_congr_name
    ((name?_pathOf root outer last).trans (name?_pathOf root' outer last).symm)

/-- **The order below a root** is the order of the names. -/
theorem before_pathOf (nonempty : root ≠ []) (nonempty' : root' ≠ []) (first second : List Name) :
    (pathOf root first).before (pathOf root second) =
      (pathOf root' first).before (pathOf root' second) := by
  simp only [Path.before, Path.ranks, components_pathOf nonempty, components_pathOf nonempty',
    List.map_append, append_left_lt_iff]

/-! ### What is excluded below a root -/

/-- Whether some token ends some segment of the text of a path. -/
def Marks (tokens : List String) (path : Path) : Prop :=
  ∃ token ∈ tokens, ∃ segment ∈ segments '/' (Utf8.decodeLossy path), token.toList <:+ segment

instance : Decidable (Marks tokens root) :=
  inferInstanceAs (Decidable (∃ token ∈ tokens, ∃ segment ∈ segments '/' (Utf8.decodeLossy root),
    token.toList <:+ segment))

/-- An opened root ends in a `/`, and in front of that it has the segments of the root, but perhaps
for an empty one. -/
theorem exists_opened_eq (nonempty : root ≠ []) : ∃ outer : Path,
    root.opened = outer ++ [Path.slash] ∧ ∀ token : List Char, token ≠ [] →
      ((∃ segment ∈ segments '/' (Utf8.decodeLossy root), token <:+ segment) ↔
        ∃ segment ∈ segments '/' (Utf8.decodeLossy outer), token <:+ segment) := by
  by_cases slashed : root.getLast? = some Path.slash
  · obtain ⟨outer, rfl⟩ := List.getLast?_eq_some_iff.mp slashed
    refine ⟨outer, if_pos (.inr slashed), fun token filled => ?_⟩
    have text : Utf8.decodeLossy (outer ++ [Path.slash]) = Utf8.decodeLossy outer ++ '/' :: [] :=
      Utf8.decodeLossy_append (by decide) _ _
    rw [text, segments_append]
    simp [segments, or_and_right, exists_or, filled]
  · exact ⟨root, if_neg (by simp [nonempty, slashed]), fun _ _ => .rfl⟩

/-- **What is excluded below a root**, by tokens that are not empty and hold no `/`: all, when a
token ends a segment of the root, and otherwise what is excluded by its relative path. -/
theorem excludes_pathOf_iff (plain : ∀ token ∈ tokens, token ≠ "" ∧ '/' ∉ token.toList)
    (rooted : root ≠ []) (nonempty : names ≠ []) :
    Ignore.excludes tokens (Utf8.decodeLossy (pathOf root names)) = true ↔
      Marks tokens root ∨ Ignore.excludes tokens (Utf8.decodeLossy (pathOf [] names)) = true := by
  obtain ⟨outer, opened, same⟩ := exists_opened_eq rooted
  have text : Utf8.decodeLossy (pathOf root names) =
      Utf8.decodeLossy outer ++ '/' :: Utf8.decodeLossy (pathOf [] names) := by
    rw [pathOf_eq_append root nonempty, opened, List.append_assoc]
    exact Utf8.decodeLossy_append (by decide) _ _
  simp only [Ignore.excludes, Marks, List.any_eq_true, text, ← exists_or, ← and_or_left]
  refine exists_congr fun token => and_congr_right fun inside => ?_
  obtain ⟨filled, whole⟩ := plain token inside
  rw [Ignore.tokenExcludes_append_iff whole, same _ (by simpa using filled)]

/-! ### The same below two roots -/

/-- Whether the same stands below two locations. -/
def SameBelow (tree : FileTree) (home : Location) (other : FileTree) (home' : Location) : Prop :=
  ∀ names : List Name, tree.get? (names.reverse ++ home) = other.get? (names.reverse ++ home')

/-- Names below a root, with a source, as a candidate. -/
def placed (root : Path) (found : List Name × Script.Source) : Candidate :=
  ⟨pathOf root found.1, found.2⟩

theorem placed_injective (root : Path) : Function.Injective (placed root) := by
  rintro ⟨names, source⟩ ⟨names', source'⟩ same
  obtain ⟨paths, rfl⟩ := Candidate.mk.inj same
  obtain rfl := pathOf_injective root paths
  rfl

variable [Host]

theorem Selected.eq_placed {candidate : Candidate} {content : Bytes}
    (selected : Selected tree home root wanted tokens candidate names content) :
    candidate = placed root (names, candidate.source) := by
  obtain ⟨path, source⟩ := candidate
  obtain rfl : path = pathOf root names := selected.path_eq
  rfl

/-- **A selected file** is selected below another root with the same below it. -/
theorem Selected.moved (plain : ∀ token ∈ tokens, token ≠ "" ∧ '/' ∉ token.toList)
    (rooted : root ≠ []) (rooted' : root' ≠ []) (clear' : ¬ Marks tokens root')
    (same : SameBelow tree home other home') {source : Script.Source} {content : Bytes}
    (selected : Selected tree home root wanted tokens (placed root (names, source)) names content) :
    Selected other home' root' wanted tokens (placed root' (names, source)) names content where
  nonempty := selected.nonempty
  visible := selected.visible
  stands := (same names).symm.trans selected.stands
  path_eq := rfl
  ending := (ofPath?_pathOf root' root selected.nonempty).trans selected.ending
  kept := by
    refine Bool.eq_false_iff.mpr fun excluded => Bool.eq_false_iff.mp selected.kept ?_
    have within := (excludes_pathOf_iff plain rooted' selected.nonempty).mp excluded
    exact (excludes_pathOf_iff plain rooted selected.nonempty).mpr
      (.inr (within.resolve_left clear'))

/-- A walk that succeeds leads to a list. -/
theorem exists_candidates_of_walk {found : Walk} (walked : walk tree cwd root = .ok found)
    (wanted : List Script.Source) (tokens : List String) :
    ∃ list, candidates tree cwd root wanted tokens = .ok list := by
  simp [candidates, walked, Except.map]

/-- **Below a marked root** nothing is selected. -/
theorem candidates_eq_nil_of_marks (plain : ∀ token ∈ tokens, token ≠ "" ∧ '/' ∉ token.toList)
    {found : Walk} (walked : walk tree cwd root = .ok found) (marked : Marks tokens root) :
    candidates tree cwd root wanted tokens = .ok [] := by
  obtain ⟨list, searched⟩ := exists_candidates_of_walk walked wanted tokens
  obtain ⟨home, located⟩ := locate_of_candidates searched
  rw [searched, Except.ok.injEq]
  refine List.eq_nil_iff_forall_not_mem.mpr fun candidate listed => ?_
  obtain ⟨-, names, content, selected⟩ := (mem_candidates searched located).mp listed
  have excluded := (excludes_pathOf_iff plain (reaches_root located).1 selected.nonempty).mpr
    (.inl marked)
  rw [← selected.path_eq] at excluded
  exact Bool.eq_false_iff.mp selected.kept excluded

theorem placed_mem_iff {list : List Candidate}
    (searched : candidates tree cwd root wanted tokens = .ok list)
    (located : locate tree cwd root = .ok home) (streamless : isStream root = false)
    {source : Script.Source} : placed root (names, source) ∈ list ↔ ∃ content,
      Selected tree home root wanted tokens (placed root (names, source)) names content := by
  rw [mem_candidates searched located]
  constructor
  · rintro ⟨-, names', content, selected⟩
    obtain rfl : names = names' := pathOf_injective root selected.path_eq
    exact ⟨content, selected⟩
  · exact fun ⟨content, selected⟩ => ⟨streamless, names, content, selected⟩

/-- **Searches below two roots with the same below them** find the same names in the same order,
when no token ends a segment of the roots. -/
theorem exists_eq_map_placed (plain : ∀ token ∈ tokens, token ≠ "" ∧ '/' ∉ token.toList)
    {list list' : List Candidate} (searched : candidates tree cwd root wanted tokens = .ok list)
    (searched' : candidates other cwd' root' wanted tokens = .ok list')
    (located : locate tree cwd root = .ok home) (located' : locate other cwd' root' = .ok home')
    (streamless : isStream root = false) (streamless' : isStream root' = false)
    (clear : ¬ Marks tokens root) (clear' : ¬ Marks tokens root')
    (same : SameBelow tree home other home') :
    ∃ below : List (List Name × Script.Source),
      list = below.map (placed root) ∧ list' = below.map (placed root') := by
  have rooted := (reaches_root located).1
  have rooted' := (reaches_root located').1
  have alike : ∀ found, placed root found ∈ list ↔ placed root' found ∈ list' := by
    rintro ⟨names, source⟩
    rw [placed_mem_iff searched located streamless, placed_mem_iff searched' located' streamless']
    exact exists_congr fun content => ⟨.moved plain rooted rooted' clear' same,
      .moved plain rooted' rooted clear fun names => (same names).symm⟩
  obtain ⟨below, rfl⟩ : list ∈ Set.range (List.map (placed root)) := by
    rw [Set.range_list_map]
    intro candidate listed
    obtain ⟨-, names, content, selected⟩ := (mem_candidates searched located).mp listed
    exact ⟨_, selected.eq_placed.symm⟩
  refine ⟨below, rfl, ?_⟩
  -- Both lists are in the order of their paths, and neither holds a file twice.
  have distinct : below.Nodup := .of_map _ (nodup_candidates searched)
  have ordered : (below.map (placed root')).Pairwise fun first second =>
      first.path.before second.path = true := by
    have ordered := pairwise_candidates searched
    rw [List.pairwise_map] at ordered ⊢
    refine ordered.imp fun {first second} there => ?_
    exact (before_pathOf rooted' rooted first.1 second.1).trans there
  have perm : list'.Perm (below.map (placed root')) := by
    refine (List.perm_ext_iff_of_nodup (nodup_candidates searched')
      (distinct.map (placed_injective root'))).mpr fun candidate => ?_
    constructor
    · intro listed
      obtain ⟨-, names, content, selected⟩ := (mem_candidates searched' located').mp listed
      rw [selected.eq_placed, ← alike, List.mem_map_of_injective (placed_injective root)] at listed
      rw [selected.eq_placed]
      exact List.mem_map_of_mem listed
    · intro inside
      obtain ⟨found, there, rfl⟩ := List.mem_map.mp inside
      exact (alike found).mp (List.mem_map_of_mem there)
  refine perm.eq_of_pairwise (fun first second listed listed' there back => ?_)
    (pairwise_candidates searched') ordered
  obtain ⟨-, names, content, selected⟩ := (mem_candidates searched' located').mp listed
  obtain ⟨-, names', content', selected'⟩ :=
    (mem_candidates searched' located').mp (perm.mem_iff.mpr listed')
  exact selected.eq_of_before rooted' selected' there back

/-- **How the root enters a search**, by tokens that are not empty and hold no `/`. When some token
ends some segment of the root, the list is empty. Otherwise the list is made of the names below the
root: it is that of every other root that no token ends a segment of and that has the same below it,
with the one root in the place of the other. -/
theorem candidates_below (plain : ∀ token ∈ tokens, token ≠ "" ∧ '/' ∉ token.toList)
    (wanted : List Script.Source) {found : Walk} (walked : walk tree cwd root = .ok found)
    (streamless : isStream root = false) :
    (Marks tokens root → candidates tree cwd root wanted tokens = .ok []) ∧
    ∃ home, locate tree cwd root = .ok home ∧
      ∀ {other : FileTree} {cwd' home' : Location} {root' : Path} {found' : Walk},
        walk other cwd' root' = .ok found' → locate other cwd' root' = .ok home' →
        isStream root' = false → SameBelow tree home other home' →
        ¬ Marks tokens root → ¬ Marks tokens root' →
        ∃ below : List (List Name × Script.Source),
          candidates tree cwd root wanted tokens = .ok (below.map (placed root)) ∧
            candidates other cwd' root' wanted tokens = .ok (below.map (placed root')) := by
  obtain ⟨list, searched⟩ := exists_candidates_of_walk walked wanted tokens
  obtain ⟨home, located⟩ := locate_of_candidates searched
  refine ⟨candidates_eq_nil_of_marks plain walked, home, located, ?_⟩
  intro other cwd' home' root' found' walked' located' streamless' same clear clear'
  obtain ⟨list', searched'⟩ := exists_candidates_of_walk walked' wanted tokens
  obtain ⟨below, rfl, rfl⟩ := exists_eq_map_placed plain searched searched' located located'
    streamless streamless' clear clear' same
  exact ⟨below, searched, searched'⟩

end Roots

/-! ### One directory under three roots -/

namespace Linked

/-- A directory with two files, and two links to it. -/
def tree : FileTree :=
  [("p/a.js", Entry.file []), ("p/d/b.jsx", .file []), ("k", .link (Bytes.ofString "p")),
    ("layout", .link (Bytes.ofString "p"))].foldl
    (fun tree place => tree.plant [] (Bytes.ofString place.1) place.2) .empty

def home : Location := Location.ofTexts ["p"]

def found : Walk := ⟨reached tree home, passedOver tree home⟩

def root : Path := Bytes.ofString "p"

/-- The link, written with more than it needs. -/
def linked : Path := Bytes.ofString "./k/"

/-- The link whose name ends in a token. -/
def marked : Path := Bytes.ofString "layout"

def listed : List Candidate :=
  [⟨Bytes.ofString "p/a.js", .js⟩, ⟨Bytes.ofString "p/d/b.jsx", .jsx⟩]

theorem candidates_eq : candidates tree [] root Script.Source.all Ignore.defaultTokens =
    .ok listed := by cbv

theorem walk_eq : walk tree [] root = .ok found ∧ walk tree [] linked = .ok found ∧
    walk tree [] marked = .ok found :=
  ⟨by cbv, by cbv, by cbv⟩

theorem locate_eq : locate tree [] root = .ok home ∧ locate tree [] linked = .ok home :=
  ⟨by cbv, by cbv⟩

end Linked

/-- Two files are found by the name of their directory and by a link to it, and none by a link whose
name ends in a token. -/
theorem candidates_below_linked :
    candidates Linked.tree [] Linked.marked Script.Source.all Ignore.defaultTokens = .ok [] ∧
      ∃ below : List (List Name × Script.Source), below.length = 2 ∧
        candidates Linked.tree [] Linked.root Script.Source.all Ignore.defaultTokens =
            .ok (below.map (placed Linked.root)) ∧
          candidates Linked.tree [] Linked.linked Script.Source.all Ignore.defaultTokens =
            .ok (below.map (placed Linked.linked)) := by
  have plain : ∀ token ∈ Ignore.defaultTokens, token ≠ "" ∧ '/' ∉ token.toList := by decide
  have marks : Marks Ignore.defaultTokens Linked.marked := by decide
  obtain ⟨walked, walked', walked''⟩ := Linked.walk_eq
  obtain ⟨located, located'⟩ := Linked.locate_eq
  refine ⟨(candidates_below plain _ walked'' (by decide)).1 marks, ?_⟩
  obtain ⟨-, home, there, moved⟩ :=
    candidates_below plain Script.Source.all walked (by decide)
  obtain rfl := Except.ok.inj (located.symm.trans there)
  obtain ⟨below, found, found'⟩ :=
    moved walked' located' (by decide) (fun _ => rfl) (by decide) (by decide)
  have same := Except.ok.inj (Linked.candidates_eq.symm.trans found)
  exact ⟨below, by simpa [Linked.listed] using (congrArg List.length same).symm, found, found'⟩

end Discovery

end Retarget
