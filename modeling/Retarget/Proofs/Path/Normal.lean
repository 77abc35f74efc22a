/-
**The normal form of a path.**

Cleaning keeps components on a stack, and each one that is kept was put onto those below it. So
reading the kept ones again keeps all of them, and a cleaned path is left as it is. On the stack a
`..` has only others below it, and `/` has nothing below it: the cleaned path is `.` or `/`, or is
made of words, behind `/` or behind a number of `..`.

* `Path.IsNormal`: the paths in normal form;
* `Path.segments_render`: the segments of a path that is made of components;
* `Path.IsKept` and `Path.isKept_keptOf`: the stacks that cleaning builds;
* `Path.clean_clean`: cleaning twice is cleaning once;
* `Path.isNormal_clean`: a cleaned path is in normal form.
-/

import Retarget.Proofs.Path.Cleaning

namespace Retarget.Path

variable {path : Path} {part : Component} {parts kept : List Component} {words : List Bytes}

/-- Whether a path is in normal form: no segment is empty but the one in front of the first `/`, none
is `.` but in the path `.`, and `..` stands only in front of all names. -/
inductive IsNormal (path : Path) : Prop where
  | here : path = [dot] → IsNormal path
  | root : path = [slash] → IsNormal path
  | absolute {words : List Bytes} : words ≠ [] → (∀ word ∈ words, IsWord word) →
      segments slash path = [] :: words → IsNormal path
  | relative {ups : Nat} {words : List Bytes} : (∀ word ∈ words, IsWord word) →
      segments slash path = List.replicate ups [dot, dot] ++ words → IsNormal path

/-! ### The segments of a path made of components -/

/-- A path made of components ends in `/` only when it is that. -/
theorem getLast?_render_ne (orderly : IsOrderly parts) (deeper : parts ≠ [.root]) :
    (render parts).getLast? ≠ some slash := by
  obtain rfl | ⟨before, last, rfl⟩ := List.eq_nil_or_concat' parts
  · simp [render]
  · have text : last.text ≠ [] ∧ slash ∉ last.text := by
      rcases orderly.cases_of_mem (List.mem_append_right _ List.mem_cons_self) with
        rfl | rfl | inner
      · rw [orderly.eq_nil_of_append_root] at deeper
        exact absurd rfl deeper
      · decide
      · exact ⟨inner.text_ne_nil, inner.1⟩
    rw [render_append, under_eq, List.getLast?_append_of_ne_nil _ text.1]
    exact fun ends => text.2 (List.mem_of_getLast? ends)

/-- **The segments of a path made of components** are theirs, unless the path is `/`. -/
theorem segments_render (orderly : IsOrderly parts) (nonempty : parts ≠ [])
    (deeper : parts ≠ [.root]) : segments slash (render parts) = parts.map Component.segment := by
  cases orderly with
  | nil => exact absurd rfl nonempty
  | @cons first rest front inner =>
    clear nonempty
    induction rest using List.reverseRecOn with
    | nil =>
      rcases front with rfl | rfl | inner
      · exact absurd rfl deeper
      · decide
      · rw [render_singleton, segments_of_notMem inner.1, List.map_singleton, inner.segment_eq]
    | append_singleton rest last ih =>
      have lastInner := inner last (by simp)
      rw [← List.cons_append, render_append, under_eq, List.map_append, List.map_singleton,
        lastInner.segment_eq]
      by_cases rooted : first :: rest = [.root]
      · rw [rooted, show opened (render [.root]) = [] ++ [slash] by decide, List.append_assoc,
          List.singleton_append, segments_append, segments_of_notMem lastInner.1]
        rfl
      · have before : ∀ part ∈ rest, part.IsInner :=
          fun part inside => inner part (List.mem_append_left _ inside)
        have orderly : IsOrderly (first :: rest) := .cons front before
        have unopened : opened (render (first :: rest)) = render (first :: rest) ++ [slash] := by
          rw [opened, if_neg]
          exact not_or.mpr ⟨render_ne_nil orderly (List.cons_ne_nil _ _),
            getLast?_render_ne orderly rooted⟩
        rw [unopened, List.append_assoc, List.singleton_append, segments_append, ih before rooted,
          segments_of_notMem lastInner.1]

/-! ### What is kept -/

/-- The stacks that cleaning builds, innermost first: each component was put onto those below. -/
inductive IsKept : List Component → Prop where
  | nil : IsKept []
  | cons {kept : List Component} {part : Component} : IsKept kept →
      keep kept part = part :: kept → IsKept (part :: kept)

/-- A component is left out, takes back the one on top, or is put on top. -/
theorem keep_cases (kept : List Component) (part : Component) :
    keep kept part = kept ∨ keep kept part = kept.tail ∨ keep kept part = part :: kept := by
  unfold keep
  split
  · exact .inl rfl
  · split
    · exact .inl rfl
    · exact .inr (.inl rfl)
    · exact .inr (.inr rfl)
  · exact .inr (.inr rfl)

theorem IsKept.keep (isKept : IsKept kept) (part : Component) : IsKept (Path.keep kept part) := by
  rcases keep_cases kept part with same | back | pushed
  · rwa [same]
  · rw [back]
    cases isKept with
    | nil => exact .nil
    | cons below _ => exact below
  · rw [pushed]
    exact .cons isKept pushed

/-- **What cleaning keeps** was put there component by component. -/
theorem isKept_keptOf (parts : List Component) : IsKept (keptOf parts) := by
  induction parts using List.reverseRecOn with
  | nil => exact .nil
  | append_singleton parts part ih =>
    rw [keptOf, List.foldl_append]
    exact ih.keep part

/-- **What was kept is kept** when it is read again. -/
theorem IsKept.keptOf_reverse (isKept : IsKept kept) : keptOf kept.reverse = kept := by
  induction isKept with
  | nil => rfl
  | @cons kept part _ pushed ih =>
    rw [List.reverse_cons, keptOf, List.foldl_append]
    exact (congrArg (Path.keep · part) ih).trans pushed

/-- **Cleaning twice** is cleaning once. -/
theorem clean_clean (path : Path) : path.clean.clean = path.clean := by
  have again : keptOf path.clean.components = keptOf path.components := by
    rw [components_clean]
    split
    · next empty =>
      rw [empty]
      rfl
    · exact (isKept_keptOf _).keptOf_reverse
  rw [clean_eq path.clean, again, ← clean_eq]

/-! ### The form of what is kept -/

theorem Component.IsInner.isWord {bytes : Bytes} (inner : (Component.name bytes).IsInner) :
    IsWord bytes := by
  obtain ⟨whole, reads⟩ := inner
  unfold Component.ofSegment? at reads
  split at reads
  · cases reads
  · next dotless =>
    split at reads
    · cases reads
    · next dots =>
      rw [not_or] at dotless
      exact ⟨dotless.1, dotless.2, dots, whole⟩

/-- The kept components, outermost first: names behind `/`, or behind a number of `..`. -/
inductive IsStraight : List Component → Prop where
  | absolute {words : List Bytes} : (∀ word ∈ words, IsWord word) →
      IsStraight (.root :: words.map .name)
  | relative {ups : Nat} {words : List Bytes} : (∀ word ∈ words, IsWord word) →
      IsStraight (List.replicate ups .up ++ words.map .name)

/-- A name can stand behind what is kept. -/
theorem IsStraight.append_name {bytes : Bytes} (straight : IsStraight parts)
    (isWord : IsWord bytes) : IsStraight (parts ++ [.name bytes]) := by
  have longer : ∀ {words : List Bytes}, (∀ word ∈ words, IsWord word) →
      ∀ word ∈ words ++ [bytes], IsWord word := by
    intro words fit word inside
    rcases List.mem_append.mp inside with inside | inside
    · exact fit word inside
    · rwa [List.mem_singleton.mp inside]
  cases straight with
  | absolute fit => simpa using IsStraight.absolute (longer fit)
  | relative fit => simpa using IsStraight.relative (longer fit)

/-- A `..` takes back a name. -/
theorem keep_up_name_ne (kept : List Component) (word : Bytes) :
    keep (.name word :: kept) .up ≠ .up :: .name word :: kept := by
  intro pushed
  have longer := congrArg List.length pushed
  simp only [keep, List.length_cons] at longer
  omega

/-- **A `..` that is kept** stands behind others only. -/
theorem IsStraight.append_up (straight : IsStraight parts)
    (pushed : keep parts.reverse .up = .up :: parts.reverse) : IsStraight (parts ++ [.up]) := by
  cases straight with
  | @absolute words fit =>
    obtain rfl | ⟨before, last, rfl⟩ := List.eq_nil_or_concat' words
    · cases pushed
    · rw [List.map_append, List.map_singleton, ← List.cons_append, List.reverse_concat] at pushed
      exact absurd pushed (keep_up_name_ne _ _)
  | @relative ups words fit =>
    obtain rfl | ⟨before, last, rfl⟩ := List.eq_nil_or_concat' words
    · have more : IsStraight (List.replicate (ups + 1) .up ++ [].map .name) := .relative fit
      simpa [List.replicate_succ'] using more
    · rw [List.map_append, List.map_singleton, ← List.append_assoc, List.reverse_concat] at pushed
      exact absurd pushed (keep_up_name_ne _ _)

/-- **What is kept** is names behind `/`, or behind a number of `..`. -/
theorem IsKept.isStraight (isKept : IsKept kept) (orderly : IsOrderly kept.reverse) :
    IsStraight kept.reverse := by
  induction isKept with
  | nil => exact @IsStraight.relative 0 [] (by simp)
  | @cons kept part _ pushed ih =>
    rw [List.reverse_cons] at orderly ⊢
    have below := ih (orderly.sublist (List.sublist_append_left _ _))
    cases part with
    | root =>
      rw [orderly.eq_nil_of_append_root]
      exact @IsStraight.absolute [] (by simp)
    | here => simp [Path.keep] at pushed
    | up => exact below.append_up (by rwa [List.reverse_reverse])
    | name bytes =>
      have inner : (Component.name bytes).IsInner := by
        simpa using orderly.cases_of_mem (List.mem_append_right _ List.mem_cons_self)
      exact below.append_name inner.isWord

/-- **A cleaned path** is in normal form. -/
theorem isNormal_clean (path : Path) : path.clean.IsNormal := by
  rw [clean_eq]
  split
  · exact .here rfl
  · next filled =>
    have orderly := (isOrderly_components path).sublist (keptOf_sublist path.components)
    have straight := (isKept_keptOf path.components).isStraight orderly
    have nonempty : (keptOf path.components).reverse ≠ [] := by simpa using filled
    generalize (keptOf path.components).reverse = parts at orderly straight nonempty
    by_cases rooted : parts = [.root]
    · exact .root (by rw [rooted]; rfl)
    · have cut := segments_render orderly nonempty rooted
      cases straight with
      | @absolute words fit =>
        refine @IsNormal.absolute _ words ?_ fit ?_
        · rintro rfl
          exact rooted rfl
        · rw [cut]
          simp [Component.segment, Function.comp_def, Component.text]
      | @relative ups words fit =>
        refine @IsNormal.relative _ ups words fit ?_
        rw [cut]
        simp [Component.segment, Function.comp_def, Component.text]

end Retarget.Path
