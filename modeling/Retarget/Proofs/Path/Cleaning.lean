/-
**What cleaning leaves of a path.**

A path is the text of its components with a `/` in front of each, and cleaning leaves some of the
components in their order. So the cleaned path is made of bytes of the path, in their order, unless
nothing is left; its components are those that were kept; and it starts with `/` when the path does.

* `Path.IsOrderly`: the lists of components that paths have;
* `Path.components_render`: the components of the path of such a list;
* `Path.render_sublist`: a path made of some components of another one;
* `Path.components_clean`: the components of a cleaned path;
* `Path.isAbsolute_clean` and `Path.clean_eq_or_sublist`: where it starts, and what is in it.
-/

import Mathlib.Data.List.Flatten
import Mathlib.Data.List.Induction
import Retarget.FileTree.Resolve
import Retarget.Path.Clean
import Retarget.Proofs.Path.Front

namespace Retarget

namespace Path

variable {path : Path} {part : Component} {parts kept before : List Component} {text : Bytes}

/-! ### Components and their segments -/

/-- Whether a component may stand behind another one: it is the one that its text gives. -/
def Component.IsInner (part : Component) : Prop :=
  slash ∉ part.text ∧ Component.ofSegment? part.text = some part

/-- The segment that a component is read from. -/
def Component.segment : Component → Bytes
  | .root => []
  | part => part.text

theorem Component.text_of_ofSegment? (reads : Component.ofSegment? text = some part) :
    part.text = text ∧ part.segment = text := by
  unfold Component.ofSegment? at reads
  split at reads
  · cases reads
  · split at reads
    · next dots =>
      cases reads
      exact ⟨dots.symm, dots.symm⟩
    · cases reads
      exact ⟨rfl, rfl⟩

theorem Component.isInner_of_ofSegment? (whole : slash ∉ text)
    (reads : Component.ofSegment? text = some part) : part.IsInner := by
  rw [Component.IsInner, (Component.text_of_ofSegment? reads).1]
  exact ⟨whole, reads⟩

theorem Component.IsInner.text_ne_nil (inner : part.IsInner) : part.text ≠ [] := by
  intro empty
  have reads := inner.2
  rw [empty] at reads
  cases reads

theorem Component.IsInner.segment_eq (inner : part.IsInner) : part.segment = part.text :=
  (Component.text_of_ofSegment? inner.2).2

theorem Component.IsInner.ne_root (inner : part.IsInner) : part ≠ .root := by
  rintro rfl
  exact inner.1 List.mem_cons_self

/-- The lists of components that paths have: `/` and `.` stand in front only. -/
inductive IsOrderly : List Component → Prop where
  | nil : IsOrderly []
  | cons {first : Component} {rest : List Component} :
      (first = .root ∨ first = .here ∨ first.IsInner) → (∀ part ∈ rest, part.IsInner) →
        IsOrderly (first :: rest)

theorem IsOrderly.of_isInner (inner : ∀ part ∈ parts, part.IsInner) : IsOrderly parts := by
  cases parts with
  | nil => exact .nil
  | cons first rest =>
    exact .cons (.inr (.inr (inner first List.mem_cons_self)))
      fun part inside => inner part (List.mem_cons_of_mem _ inside)

/-- What is left of an orderly list is orderly. -/
theorem IsOrderly.sublist (orderly : IsOrderly parts) (left : before.Sublist parts) :
    IsOrderly before := by
  cases orderly with
  | nil => exact List.sublist_nil.mp left ▸ .nil
  | cons front inner =>
    cases left with
    | cons _ left => exact .of_isInner fun part inside => inner part (left.subset inside)
    | cons_cons _ left => exact .cons front fun part inside => inner part (left.subset inside)

/-- `/` stands in front only. -/
theorem IsOrderly.head?_of_mem (orderly : IsOrderly parts) (inside : .root ∈ parts) :
    parts.head? = some .root := by
  cases orderly with
  | nil => cases inside
  | cons front inner =>
    rcases List.mem_cons.mp inside with rfl | inside
    · rfl
    · exact absurd rfl (inner _ inside).ne_root

theorem IsOrderly.cases_of_mem (orderly : IsOrderly parts) (inside : part ∈ parts) :
    part = .root ∨ part = .here ∨ part.IsInner := by
  cases orderly with
  | nil => cases inside
  | cons front inner =>
    rcases List.mem_cons.mp inside with rfl | inside
    · exact front
    · exact .inr (.inr (inner _ inside))

/-- Nothing stands in front of `/`. -/
theorem IsOrderly.eq_nil_of_append_root (orderly : IsOrderly (parts ++ [.root])) : parts = [] := by
  cases parts with
  | nil => rfl
  | cons first rest =>
    cases orderly with
    | cons _ inner => exact absurd rfl (inner .root (by simp)).ne_root

/-- **The components of a path** are in order. -/
theorem isOrderly_components (path : Path) : IsOrderly path.components := by
  by_cases empty : path = []
  · subst empty
    exact .nil
  · obtain ⟨first, rest, split⟩ := exists_segments slash path
    have whole : ∀ segment ∈ first :: rest, slash ∉ segment :=
      fun segment inside => notMem_of_mem_segments (split ▸ inside)
    have inner : ∀ part ∈ rest.filterMap Component.ofSegment?, part.IsInner := by
      intro part inside
      obtain ⟨segment, member, reads⟩ := List.mem_filterMap.mp inside
      exact Component.isInner_of_ofSegment? (whole segment (List.mem_cons_of_mem _ member)) reads
    rw [components_eq empty split]
    cases front : Component.ofFront? [slash] first with
    | none => exact .of_isInner inner
    | some part =>
      refine .cons ?_ inner
      unfold Component.ofFront? at front
      split at front
      · exact .inl (Option.some.inj front).symm
      · split at front
        · exact .inr (.inl (Option.some.inj front).symm)
        · exact .inr (.inr
            (Component.isInner_of_ofSegment? (whole first List.mem_cons_self) front))

/-- A path starts with `/` when its first component is that. -/
theorem isAbsolute_iff : path.isAbsolute = true ↔ path.components.head? = some .root := by
  cases path with
  | nil => simp [isAbsolute, components, segments, Component.ofFront?]
  | cons byte rest =>
    obtain ⟨first, others, split⟩ := exists_segments slash rest
    by_cases slashed : byte = slash
    · have whole : segments slash (byte :: rest) = [] :: first :: others := by
        rw [segments, split, if_pos (by simp [slashed])]
      rw [components_eq (by simp) whole]
      simp [isAbsolute, slashed, Component.ofFront?]
    · have whole : segments slash (byte :: rest) = (byte :: first) :: others := by
        rw [segments, split, if_neg (by simp [slashed])]
      have relative : isAbsolute (byte :: rest) ≠ true := by simp [isAbsolute, slashed]
      refine iff_of_false relative fun front => ?_
      rw [components_eq (by simp) whole, Component.ofFront?, if_neg (by simp)] at front
      have inside := List.mem_of_head? front
      rw [List.mem_append, Option.mem_toList] at inside
      rcases inside with named | further
      · split at named
        · cases named
        · have text := (Component.text_of_ofSegment? named).2
          cases text
      · obtain ⟨segment, -, reads⟩ := List.mem_filterMap.mp further
        obtain ⟨text, spelling⟩ := Component.text_of_ofSegment? reads
        cases text.trans spelling.symm

/-! ### The path of components -/

theorem render_append (parts : List Component) (part : Component) :
    render (parts ++ [part]) = (render parts).under part.text := by
  rw [render, List.foldl_append]
  rfl

theorem render_singleton (part : Component) : render [part] = part.text := rfl

/-- **The components of the path of an orderly list** are that list. -/
theorem components_render (orderly : IsOrderly parts) : components (render parts) = parts := by
  cases orderly with
  | nil => rfl
  | @cons first rest front inner =>
    suffices general : render (first :: rest) ≠ [] ∧
        components (render (first :: rest)) = first :: rest from general.2
    induction rest using List.reverseRecOn with
    | nil =>
      rcases front with rfl | rfl | inner
      · exact ⟨by decide, by decide⟩
      · exact ⟨by decide, by decide⟩
      · have last : segments slash first.text = [first.text] := segments_of_notMem inner.1
        have text := inner.text_ne_nil
        have dotted : first.text ≠ [dot] := by
          intro same
          have reads := inner.2
          rw [same] at reads
          cases reads
        refine ⟨text, ?_⟩
        rw [render_singleton, components_eq text last, Component.ofFront?, if_neg text,
          if_neg dotted, inner.2]
        rfl
    | append_singleton rest last ih =>
      obtain ⟨filled, same⟩ := ih fun part inside => inner part (List.mem_append_left _ inside)
      have lastInner := inner last (by simp)
      rw [← List.cons_append, render_append]
      refine ⟨?_, ?_⟩
      · rw [under_eq]
        simp [lastInner.text_ne_nil]
      · rw [components_under_segment filled lastInner.1 lastInner.2, same]

theorem render_ne_nil (orderly : IsOrderly parts) (nonempty : parts ≠ []) : render parts ≠ [] := by
  intro empty
  have same := components_render orderly
  rw [empty] at same
  exact nonempty same.symm

/-! ### Paths made of some components -/

/-- The segments of components with a `/` in front of each. -/
def spelled (parts : List Component) : Bytes := parts.flatMap fun part => slash :: part.segment

/-- The components of a path leave out some of its segments. -/
theorem spelled_components_sublist (path : Path) :
    (spelled path.components).Sublist (slash :: path) := by
  by_cases empty : path = []
  · subst empty
    exact List.nil_sublist _
  · obtain ⟨first, rest, split⟩ := exists_segments slash path
    rw [components_eq empty split, cons_eq_flatMap_segments slash path, split, spelled,
      List.flatMap_append, List.flatMap_cons]
    refine List.Sublist.append ?_ ?_
    · cases front : Component.ofFront? [slash] first with
      | none => exact List.nil_sublist _
      | some part =>
        have segment : part.segment = first := by
          unfold Component.ofFront? at front
          split at front
          · next none => exact Option.some.inj front ▸ none.symm
          · split at front
            · next dotted => exact Option.some.inj front ▸ dotted.symm
            · exact (Component.text_of_ofSegment? front).2
        simp [segment]
    · clear split
      induction rest with
      | nil => exact .refl _
      | cons segment rest ih =>
        rw [List.flatMap_cons]
        cases reads : Component.ofSegment? segment with
        | none =>
          rw [List.filterMap_cons_none reads]
          exact ih.trans (List.sublist_append_right _ _)
        | some part =>
          rw [List.filterMap_cons_some reads, List.flatMap_cons,
            (Component.text_of_ofSegment? reads).2]
          exact (List.Sublist.refl _).append ih

theorem opened_sublist (path : Path) : path.opened.Sublist (path ++ [slash]) := by
  unfold opened
  split
  · exact List.sublist_append_left _ _
  · exact .refl _

/-- The path of components spells them, unless it is `/`. -/
theorem cons_render_sublist (orderly : IsOrderly parts) (nonempty : parts ≠ [])
    (deeper : parts ≠ [.root]) : (slash :: render parts).Sublist (spelled parts) := by
  cases orderly with
  | nil => exact absurd rfl nonempty
  | @cons first rest front inner =>
    clear nonempty
    induction rest using List.reverseRecOn with
    | nil =>
      have segment : first.segment = first.text := by
        rcases front with rfl | rfl | inner
        · exact absurd rfl deeper
        · rfl
        · exact inner.segment_eq
      simp [render_singleton, spelled, segment]
    | append_singleton rest last ih =>
      have lastInner := inner last (by simp)
      rw [← List.cons_append, render_append, under_eq]
      by_cases rooted : first :: rest = [.root]
      · rw [rooted, show opened (render [.root]) = [slash] by decide]
        simp [spelled, lastInner.segment_eq, show Component.root.segment = [] from rfl]
      · have shorter := ih (fun part inside => inner part (List.mem_append_left _ inside)) rooted
        rw [spelled, List.flatMap_append, List.flatMap_singleton, lastInner.segment_eq]
        have ends : (slash :: (opened (render (first :: rest)) ++ last.text)).Sublist
            ((slash :: render (first :: rest)) ++ (slash :: last.text)) := by
          have opens := (opened_sublist (render (first :: rest))).append_right last.text
          simpa using opens.cons_cons slash
        exact ends.trans (shorter.append_right _)

/-- **A path made of some components of another one** has some of its bytes, in their order. -/
theorem render_sublist (path : Path) (left : parts.Sublist path.components) :
    (render parts).Sublist path := by
  have orderly := (isOrderly_components path).sublist left
  by_cases empty : parts = []
  · subst empty
    exact List.nil_sublist _
  · by_cases rooted : parts = [.root]
    · subst rooted
      have absolute := isAbsolute_iff.mpr
        ((isOrderly_components path).head?_of_mem (left.subset List.mem_cons_self))
      rw [isAbsolute, beq_iff_eq] at absolute
      exact List.singleton_sublist.mpr (List.mem_of_head? absolute)
    · have spells : (spelled parts).Sublist (spelled path.components) := left.flatMap _
      exact List.cons_sublist_cons.mp ((cons_render_sublist orderly empty rooted).trans
        (spells.trans (spelled_components_sublist path)))

/-! ### The components that are kept -/

/-- The components that cleaning keeps, innermost first. -/
def keptOf (parts : List Component) : List Component := parts.foldl keep []

theorem keep_sublist (kept : List Component) (part : Component) :
    (keep kept part).reverse.Sublist (kept.reverse ++ [part]) := by
  unfold keep
  split
  · exact List.sublist_append_left _ _
  · split
    · exact List.sublist_append_left _ _
    · exact (List.reverse_sublist.mpr (List.sublist_cons_self _ _)).trans
        (List.sublist_append_left _ _)
    · simp
  · simp

theorem foldl_keep_sublist (kept parts : List Component) :
    (parts.foldl keep kept).reverse.Sublist (kept.reverse ++ parts) := by
  induction parts generalizing kept with
  | nil => simp
  | cons part rest ih =>
    have step := (keep_sublist kept part).append_right rest
    rw [List.append_assoc, List.singleton_append] at step
    exact (ih _).trans step

/-- **What is kept** is left of the components. -/
theorem keptOf_sublist (parts : List Component) : (keptOf parts).reverse.Sublist parts :=
  foldl_keep_sublist [] parts

theorem getLast?_keep (rooted : kept.getLast? = some .root) (part : Component) :
    (keep kept part).getLast? = some .root := by
  unfold keep
  split
  · exact rooted
  · split
    · exact rooted
    · next outer =>
      cases outer with
      | nil => cases rooted
      | cons => exact rooted
    · rw [List.getLast?_cons, rooted]
      rfl
  · rw [List.getLast?_cons, rooted]
    rfl

theorem getLast?_foldl_keep (rooted : kept.getLast? = some .root) (parts : List Component) :
    (parts.foldl keep kept).getLast? = some .root := by
  induction parts generalizing kept with
  | nil => exact rooted
  | cons part rest ih => exact ih (getLast?_keep rooted part)

/-- A `/` in front is kept. -/
theorem getLast?_keptOf_iff (orderly : IsOrderly parts) :
    (keptOf parts).getLast? = some .root ↔ parts.head? = some .root := by
  constructor
  · intro last
    have inside : .root ∈ (keptOf parts).reverse := List.mem_reverse.mpr (List.mem_of_getLast? last)
    exact orderly.head?_of_mem ((keptOf_sublist parts).subset inside)
  · intro front
    cases parts with
    | nil => cases front
    | cons first rest =>
      obtain rfl : first = .root := Option.some.inj front
      exact getLast?_foldl_keep rfl rest

/-! ### The cleaned path -/

theorem clean_eq (path : Path) : path.clean =
    if keptOf path.components = [] then [dot] else render (keptOf path.components).reverse := by
  rw [clean, keptOf]
  split
  · next empty => rw [if_pos empty]
  · next filled => rw [if_neg filled]

/-- **The components of a cleaned path** are those that are kept, or `.` when none is. -/
theorem components_clean (path : Path) : path.clean.components =
    if keptOf path.components = [] then [.here] else (keptOf path.components).reverse := by
  rw [clean_eq]
  split
  · decide
  · exact components_render ((isOrderly_components path).sublist (keptOf_sublist _))

/-- **A cleaned path** starts with `/` when the path does. -/
theorem isAbsolute_clean (path : Path) : path.clean.isAbsolute = path.isAbsolute := by
  rw [Bool.eq_iff_iff, isAbsolute_iff, isAbsolute_iff,
    ← getLast?_keptOf_iff (isOrderly_components path), components_clean]
  split
  · next empty => simp [empty]
  · rw [List.head?_reverse]

theorem clean_ne_nil (path : Path) : path.clean ≠ [] := by
  rw [clean_eq]
  split
  · simp
  · next filled =>
    refine render_ne_nil ((isOrderly_components path).sublist (keptOf_sublist _)) ?_
    simpa using filled

/-- **A cleaned path** is a dot or has some bytes of the path, in their order. -/
theorem clean_eq_or_sublist (path : Path) : path.clean = [dot] ∨ path.clean.Sublist path := by
  rw [clean_eq]
  split
  · exact .inl rfl
  · exact .inr (render_sublist path (keptOf_sublist _))

theorem length_clean_le (nonempty : path ≠ []) : path.clean.length ≤ path.length := by
  rcases clean_eq_or_sublist path with dotted | left
  · rw [dotted]
    exact List.length_pos_of_ne_nil nonempty
  · exact left.length_le

theorem zero_notMem_clean (unbroken : 0 ∉ path) : 0 ∉ path.clean := by
  rcases clean_eq_or_sublist path with dotted | left
  · rw [dotted]
    decide
  · exact fun inside => unbroken (left.subset inside)

end Path

end Retarget
