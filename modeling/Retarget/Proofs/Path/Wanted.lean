/-
**The source that a path names.**

A path names a source by its last component, when this is a name. Cut at `/`, the path holds that
name, and behind it only segments that give no component; so it is a front, the name and a trail,
and that is where a name is looked for from the end of the path. A name is a nonempty stem and the
ending of one source at most. So it does not matter in which order the wanted sources are tried, nor
how often one stands among them.

* `segments_append_flatMap`: the segments of a word with separated parts behind it;
* `Path.name?_eq_some_iff_append` and `Path.getLast?_components_iff`: a path with a name at its end,
  by its text and by its components;
* `Path.name?_eq_some_iff`: the name of a path is its last component;
* `Script.Names`: whether the last component of a path is the name of a source;
* `Script.Source.found_iff_names`: which source a path names.
-/

import Retarget.Proofs.Path.Cleaning
import Retarget.Proofs.Path.Trail

namespace Retarget

/-- The segments of a word with more parts behind it, each behind a separator. -/
theorem segments_append_flatMap {α : Type} [BEq α] [LawfulBEq α] {sep : α} {word : List α}
    {parts : List (List α)} (whole : sep ∉ word) (cut : ∀ part ∈ parts, sep ∉ part) :
    segments sep (word ++ parts.flatMap (sep :: ·)) = word :: parts := by
  induction parts generalizing word with
  | nil => simpa using segments_of_notMem whole
  | cons part rest ih =>
    have behind := ih (cut part List.mem_cons_self) fun other inside =>
      cut other (List.mem_cons_of_mem _ inside)
    rw [List.flatMap_cons, List.cons_append, segments_append, segments_of_notMem whole, behind]
    rfl

namespace Path

variable {path : Path} {name : Bytes}

/-! ### Segments without a component -/

theorem Component.ofSegment?_eq_none_iff {segment : Bytes} :
    Component.ofSegment? segment = none ↔ segment = [] ∨ segment = [dot] := by
  unfold Component.ofSegment?
  split
  · next idle => exact iff_of_true rfl idle
  · next filled => split <;> simp [filled]

/-- Which segment gives a name. -/
theorem Component.ofSegment?_eq_name_iff {segment : Bytes} (whole : slash ∉ segment) :
    Component.ofSegment? segment = some (.name name) ↔ segment = name ∧ IsWord name := by
  constructor
  · intro reads
    have same : name = segment := (Component.text_of_ofSegment? reads).1
    subst same
    refine ⟨rfl, fun empty => ?_, fun single => ?_, fun double => ?_, whole⟩
    · simp [Component.ofSegment?, empty] at reads
    · simp [Component.ofSegment?, single] at reads
    · simp [Component.ofSegment?, double] at reads
  · rintro ⟨rfl, isWord⟩
    exact Component.ofSegment?_word isWord

/-! ### The last component -/

/-- **The name of a path** stands behind a front and before a trail. -/
theorem name?_eq_some_iff_append : path.name? = some name ↔ ∃ front trail,
    path = front ++ (name ++ trail) ∧ IsFront front ∧ IsWord name ∧ IsIdle trail := by
  constructor
  · intro found
    obtain ⟨leaf, cut, rfl⟩ := Option.map_eq_some_iff.mp found
    exact ⟨leaf.front, leaf.trail, eq_of_leaf? cut⟩
  · rintro ⟨front, trail, rfl, isFront, isWord, isIdle⟩
    rw [name?, leaf?_append_idle isFront isWord isIdle]
    rfl

/-- A path that is cut into segments of which the last one with a component is a name. -/
theorem exists_segments_of_components (nonempty : path ≠ [])
    (last : path.components.getLast? = some (.name name)) : ∃ outer parts,
      segments slash path = outer ++ name :: parts ∧ IsWord name ∧
        ∀ part ∈ parts, part = [] ∨ part = [dot] := by
  obtain ⟨first, rest, split⟩ := exists_segments slash path
  have whole : ∀ segment ∈ first :: rest, slash ∉ segment :=
    fun segment inside => notMem_of_mem_segments (split ▸ inside)
  rw [components_eq nonempty split, List.getLast?_append, List.getLast?_filterMap] at last
  cases found : rest.reverse.findSome? Component.ofSegment? with
  | some part =>
    -- Some segment behind the first one has a component, and the last such one gives the name.
    rw [found, Option.some_or, Option.some.injEq] at last
    subst last
    obtain ⟨behind, segment, before, shape, reads, idle⟩ := List.findSome?_eq_some_iff.mp found
    have turned := congrArg List.reverse shape
    rw [List.reverse_reverse, List.reverse_append, List.reverse_cons, List.append_assoc,
      List.singleton_append] at turned
    obtain ⟨rfl, isWord⟩ := (Component.ofSegment?_eq_name_iff
      (whole segment (List.mem_cons_of_mem _ (by simp [turned])))).mp reads
    refine ⟨first :: before.reverse, behind.reverse, by rw [split, turned]; rfl, isWord, ?_⟩
    exact fun part inside =>
      Component.ofSegment?_eq_none_iff.mp (idle part (List.mem_reverse.mp inside))
  | none =>
    -- No other segment has a component, so the first one gives the name.
    rw [found, Option.none_or] at last
    have reads : Component.ofSegment? first = some (.name name) := by
      have front := Option.mem_toList.mp (List.mem_of_getLast? last)
      unfold Component.ofFront? at front
      split at front
      · cases front
      · split at front
        · cases front
        · exact front
    obtain ⟨rfl, isWord⟩ :=
      (Component.ofSegment?_eq_name_iff (whole first List.mem_cons_self)).mp reads
    refine ⟨[], rest, split, isWord, fun part inside => ?_⟩
    exact Component.ofSegment?_eq_none_iff.mp
      (List.findSome?_eq_none_iff.mp found part (List.mem_reverse.mpr inside))

/-- A path that is cut so is a front, the name and a trail. -/
theorem exists_front_of_segments {outer parts : List Bytes}
    (split : segments slash path = outer ++ name :: parts)
    (idle : ∀ part ∈ parts, part = [] ∨ part = [dot]) :
    ∃ front trail, path = front ++ (name ++ trail) ∧ IsFront front ∧ IsIdle trail := by
  have spelled := cons_eq_flatMap_segments slash path
  rw [split, List.flatMap_append, List.flatMap_cons] at spelled
  have isIdle : IsIdle (parts.flatMap (slash :: ·)) := ⟨parts, idle, rfl⟩
  cases outer with
  | nil => exact ⟨[], _, by simpa using spelled, .inl rfl, isIdle⟩
  | cons segment outer =>
    refine ⟨segment ++ outer.flatMap (slash :: ·) ++ [slash], _, ?_, .inr (by simp), isIdle⟩
    simpa using spelled

/-- **The components of a front with a name and a trail** behind it end in the name. -/
theorem exists_components_eq {front trail : Path} (isFront : IsFront front) (isWord : IsWord name)
    (isIdle : IsIdle trail) :
    ∃ before, components (front ++ (name ++ trail)) = before ++ [.name name] := by
  obtain ⟨parts, idle, rfl⟩ := isIdle
  have cut : segments slash (name ++ parts.flatMap (slash :: ·)) = name :: parts := by
    refine segments_append_flatMap isWord.whole fun part inside => ?_
    rcases idle part inside with rfl | rfl <;> decide
  have skipped : parts.filterMap Component.ofSegment? = [] :=
    List.filterMap_eq_nil_iff.mpr fun part inside =>
      Component.ofSegment?_eq_none_iff.mpr (idle part inside)
  have reads := Component.ofSegment?_word isWord
  rcases isFront.eq_nil_or_append with rfl | ⟨outer, rfl⟩
  · refine ⟨[], ?_⟩
    rw [List.nil_append, components_eq (by simp [isWord.nonempty]) cut, Component.ofFront?,
      if_neg isWord.nonempty, if_neg isWord.not_dot, reads, skipped]
    rfl
  · obtain ⟨first, rest, split⟩ := exists_segments slash outer
    have whole : segments slash (outer ++ [slash] ++ (name ++ parts.flatMap (slash :: ·))) =
        first :: (rest ++ name :: parts) := by
      rw [List.append_assoc, List.singleton_append, segments_append, cut, split, List.cons_append]
    refine ⟨(Component.ofFront? [slash] first).toList ++ rest.filterMap Component.ofSegment?, ?_⟩
    rw [components_eq (by simp) whole, List.filterMap_append, List.filterMap_cons_some reads,
      skipped, List.append_assoc]

/-- **The last component of a path** is a name when this stands behind a front and before a
trail. -/
theorem getLast?_components_iff : path.components.getLast? = some (.name name) ↔ ∃ front trail,
    path = front ++ (name ++ trail) ∧ IsFront front ∧ IsWord name ∧ IsIdle trail := by
  constructor
  · intro last
    have nonempty : path ≠ [] := by
      rintro rfl
      cases last
    obtain ⟨outer, parts, split, isWord, idle⟩ := exists_segments_of_components nonempty last
    obtain ⟨front, trail, cut, isFront, isIdle⟩ := exists_front_of_segments split idle
    exact ⟨front, trail, cut, isFront, isWord, isIdle⟩
  · rintro ⟨front, trail, rfl, isFront, isWord, isIdle⟩
    obtain ⟨before, ends⟩ := exists_components_eq isFront isWord isIdle
    rw [ends, List.getLast?_concat]

/-- **The name of a path** is its last component, when that is a name. -/
theorem name?_eq_some_iff :
    path.name? = some name ↔ path.components.getLast? = some (.name name) :=
  name?_eq_some_iff_append.trans getLast?_components_iff.symm

end Path

namespace Script

variable {path : Path} {wanted wanted' : List Source} {source source' : Source}

/-- **Whether a path names a source**: its last component is a name that is a text, a nonempty stem
and the ending of the source. -/
def Names (path : Path) (source : Source) : Prop :=
  ∃ stem text, stem ≠ [] ∧
    path.components.getLast? = some (.name (stem ++ Bytes.ofString source.suffix)) ∧
      Utf8.decode? (stem ++ Bytes.ofString source.suffix) = some text

/-- **A path names one source** at most. -/
theorem Names.unique (names : Names path source) (names' : Names path source') :
    source = source' := by
  obtain ⟨stem, -, -, last, -⟩ := names
  obtain ⟨stem', -, -, last', -⟩ := names'
  rw [last, Option.some.injEq, Path.Component.name.injEq] at last'
  exact (Source.append_suffix_inj last').2

/-- A path names the wanted source that its last component ends like. -/
theorem Source.ofPath?_eq_some_iff_names :
    Source.ofPath? wanted path = some source ↔ source ∈ wanted ∧ Names path source := by
  rw [Source.ofPath?_eq_some_iff]
  constructor
  · rintro ⟨name, found, ⟨text, decoded⟩, asked, ends⟩
    obtain ⟨stem, nonempty, rfl⟩ := Source.ends_iff.mp ends
    exact ⟨asked, stem, text, nonempty, Path.name?_eq_some_iff.mp found, decoded⟩
  · rintro ⟨asked, stem, text, nonempty, last, decoded⟩
    exact ⟨_, Path.name?_eq_some_iff.mpr last, ⟨text, decoded⟩, asked,
      Source.ends_iff.mpr ⟨stem, nonempty, rfl⟩⟩

/-- **Only which sources are wanted counts**, neither their order nor how often each is. -/
theorem Source.ofPath?_congr (same : ∀ source, source ∈ wanted ↔ source ∈ wanted') (path : Path) :
    Source.ofPath? wanted path = Source.ofPath? wanted' path := by
  refine Option.ext fun source => ?_
  rw [Source.ofPath?_eq_some_iff_names, Source.ofPath?_eq_some_iff_names, same]

/-- **Which source a path names.** It is the wanted one of which the path has the ending behind a
nonempty stem in its last component, and there is one such source at most. So the wanted sources may
be given in any order and repeatedly, and longer endings need not be tried first. -/
theorem Source.found_iff_names (path : Path) :
    (∀ wanted source, Source.ofPath? wanted path = some source ↔
      source ∈ wanted ∧ Names path source) ∧
    (∀ source source', Names path source → Names path source' → source = source') ∧
    (∀ wanted wanted' : List Source, wanted.Perm wanted' →
      Source.ofPath? wanted path = Source.ofPath? wanted' path) ∧
    ∀ wanted, Source.ofPath? wanted.eraseDups path = Source.ofPath? wanted path ∧
      Source.firstOf? wanted path = Source.ofPath? wanted path := by
  refine ⟨fun wanted source => Source.ofPath?_eq_some_iff_names,
    fun source source' => Names.unique, fun wanted wanted' perm => ?_,
    fun wanted => ⟨?_, Source.firstOf?_eq_ofPath? wanted path⟩⟩
  · exact Source.ofPath?_congr (fun source => perm.mem_iff) path
  · exact Source.ofPath?_congr (fun source => List.mem_eraseDups) path

/-- A name with both endings, and a trail behind it, names one source in either order. -/
theorem Source.found_iff_names_reversed :
    Names Dotted.path .jsx ∧ ¬ Names Dotted.path .js ∧
      Source.ofPath? [.js, .jsx] Dotted.path = Source.ofPath? [.jsx, .js] Dotted.path := by
  obtain ⟨named, unique, perms, -⟩ := Source.found_iff_names Dotted.path
  have names : Names Dotted.path .jsx := ((named Source.all .jsx).mp Dotted.ofPath?_path).2
  refine ⟨names, fun other => ?_, perms [.js, .jsx] [.jsx, .js] (.swap _ _ [])⟩
  exact absurd (unique .jsx .js names other) (by decide)

end Script

end Retarget
