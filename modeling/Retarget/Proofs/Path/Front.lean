/-
**A path cut in front of its last name.**

A front is what may stand before a name: nothing, or a path that ends in `/`. A word is a segment
that names something: it is not empty, neither `.` nor `..`, and holds no `/`. A trail is what may
stand behind a word that is the last name all the same: `/`s with nothing or one dot behind each.

* `segments_append`: cutting at a separator is cutting on both sides of it;
* `cons_eq_flatMap_segments`: a list is made of its segments;
* `Path.IsIdle`: what may stand behind the last name, and is dropped;
* `Path.leaf?_append_idle`: the leaf of a front with a word and a trail behind it;
* `Path.eq_of_leaf?`: a path that has a leaf is a front, a word and a trail;
* `Path.under_eq`: a name put below a path stands behind a front;
* `Path.components_under`: a word put below a path is one more component.
-/

import Mathlib.Data.List.Basic
import Mathlib.Data.List.Induction
import Retarget.Path.Basic

namespace Retarget

/-! ### Segments -/

section Segments

variable {α : Type} [BEq α] [LawfulBEq α] {sep : α}

omit [LawfulBEq α] in
/-- A list has a first segment. -/
theorem exists_segments (sep : α) (list : List α) :
    ∃ first rest, segments sep list = first :: rest := by
  cases list with
  | nil => exact ⟨[], [], rfl⟩
  | cons a rest =>
    rw [segments]
    split
    · exact ⟨_, _, rfl⟩
    · split <;> exact ⟨_, _, rfl⟩

/-- **Cutting at a separator** is cutting what stands before it and what stands behind it. -/
theorem segments_append (before behind : List α) :
    segments sep (before ++ sep :: behind) = segments sep before ++ segments sep behind := by
  induction before with
  | nil => simp [segments]
  | cons a rest ih =>
    rw [List.cons_append, segments, segments, ih]
    split
    · rfl
    · obtain ⟨first, others, shape⟩ := exists_segments sep rest
      rw [shape]
      rfl

theorem segments_of_notMem {list : List α} (absent : sep ∉ list) : segments sep list = [list] := by
  induction list with
  | nil => rfl
  | cons a rest ih =>
    rw [List.mem_cons, not_or] at absent
    have differs : (a == sep) = false := by simpa using Ne.symm absent.1
    rw [segments, ih absent.2, differs]
    rfl

theorem notMem_of_mem_segments {list segment : List α} (inside : segment ∈ segments sep list) :
    sep ∉ segment := by
  induction list generalizing segment with
  | nil =>
    obtain rfl := List.mem_singleton.mp inside
    exact List.not_mem_nil
  | cons a rest ih =>
    obtain ⟨first, others, split⟩ := exists_segments sep rest
    rw [segments, split] at inside
    rw [split] at ih
    split at inside
    · rcases List.mem_cons.mp inside with rfl | inside
      · exact List.not_mem_nil
      · exact ih inside
    · next differs =>
      rcases List.mem_cons.mp inside with rfl | inside
      · rw [List.mem_cons, not_or]
        exact ⟨fun same => differs (by simp [same]), ih List.mem_cons_self⟩
      · exact ih (List.mem_cons_of_mem _ inside)

/-- A list is its segments with the separator in front of each but the first. -/
theorem cons_eq_flatMap_segments (sep : α) (list : List α) :
    sep :: list = (segments sep list).flatMap (sep :: ·) := by
  induction list with
  | nil => rfl
  | cons a rest ih =>
    obtain ⟨first, others, split⟩ := exists_segments sep rest
    rw [split, List.flatMap_cons, List.cons_append, List.cons.injEq] at ih
    rw [segments, split, ih.2]
    split
    · next same =>
      simp [LawfulBEq.eq_of_beq same]
    · simp

end Segments

namespace Path

variable {front : Path} {word trail : Bytes}

/-! ### Fronts and words -/

/-- Whether a path is nothing or ends in `/`, so that a name behind it is a segment of its own. -/
def IsFront (path : Path) : Prop := path = [] ∨ path.getLast? = some slash

/-- Whether bytes are a segment that names something. -/
structure IsWord (bytes : Bytes) : Prop where
  nonempty : bytes ≠ []
  not_dot : bytes ≠ [dot]
  not_dots : bytes ≠ [dot, dot]
  whole : slash ∉ bytes

theorem IsFront.eq_nil_or_append (isFront : IsFront front) :
    front = [] ∨ ∃ outer, front = outer ++ [slash] :=
  isFront.imp id List.getLast?_eq_some_iff.mp

/-- What stands before a name that is put below a path. -/
def opened (path : Path) : Path :=
  if path = [] ∨ path.getLast? = some slash then path else path ++ [slash]

theorem isFront_opened (path : Path) : IsFront path.opened := by
  unfold opened
  split
  · next front => exact front
  · exact .inr (by simp)

/-- **A name put below a path stands behind a front.** -/
theorem under_eq (parent : Path) (name : Bytes) : parent.under name = parent.opened ++ name := by
  unfold under opened
  split <;> simp

theorem IsWord.getLast?_append_ne (isWord : IsWord word) (front : Path) :
    (front ++ word).getLast? ≠ some slash := by
  rw [List.getLast?_append_of_ne_nil _ isWord.nonempty]
  exact fun last => isWord.whole (List.mem_of_getLast? last)

/-- No word that is longer than two bytes is one of the dots. -/
theorem IsWord.of_length {bytes : Bytes} (long : 2 < bytes.length) (whole : slash ∉ bytes) :
    IsWord bytes where
  nonempty := by rintro rfl; simp at long
  not_dot := by rintro rfl; simp at long
  not_dots := by rintro rfl; simp at long
  whole := whole

/-! ### Trails -/

/-- What is dropped off the end of a path ends in `/` or `/.`. -/
def IsTrail (trail : Bytes) : Prop :=
  trail = [] ∨ trail.getLast? = some slash ∨ ∃ outer, trail = outer ++ [slash, dot]

/-- Whether bytes are `/`s with nothing or one dot behind each of them. -/
def IsIdle (trail : Bytes) : Prop :=
  ∃ parts : List Bytes, (∀ part ∈ parts, part = [] ∨ part = [dot]) ∧
    trail = parts.flatMap (slash :: ·)

theorem isIdle_nil : IsIdle [] := ⟨[], by simp, rfl⟩

theorem IsIdle.isTrail (isIdle : IsIdle trail) : IsTrail trail := by
  obtain ⟨parts, dots, rfl⟩ := isIdle
  obtain rfl | ⟨before, last, rfl⟩ := List.eq_nil_or_concat' parts
  · exact .inl rfl
  · rcases dots last (by simp) with rfl | rfl
    · exact .inr (.inl (by simp))
    · exact .inr (.inr ⟨before.flatMap (slash :: ·), by simp⟩)

/-- The beginning of a trail is a trail. -/
theorem IsIdle.take (isIdle : IsIdle trail) (count : Nat) : IsIdle (trail.take count) := by
  obtain ⟨parts, dots, rfl⟩ := isIdle
  induction parts generalizing count with
  | nil => simpa using isIdle_nil
  | cons part rest ih =>
    have deeper := fun count =>
      ih count fun part inside => dots part (List.mem_cons_of_mem _ inside)
    cases count with
    | zero => exact isIdle_nil
    | succ count =>
      rcases dots part List.mem_cons_self with rfl | rfl
      · obtain ⟨parts, dots', split⟩ := deeper count
        exact ⟨[] :: parts, by simpa using dots', by simp [split]⟩
      · cases count with
        | zero => exact ⟨[[]], by simp, by simp⟩
        | succ count =>
          obtain ⟨parts, dots', split⟩ := deeper count
          exact ⟨[dot] :: parts, by simpa using dots', by simp [split]⟩

/-- A trail is dropped off the end of a path. -/
theorem dropTrail_append (isIdle : IsIdle trail) (rest : Bytes) :
    dropTrail (trail.reverse ++ rest) = dropTrail rest := by
  obtain ⟨parts, dots, rfl⟩ := isIdle
  induction parts using List.reverseRecOn with
  | nil => rfl
  | append_singleton before last ih =>
    have dropped := ih fun part inside => dots part (List.mem_append_left _ inside)
    rw [List.flatMap_append, List.reverse_append, List.append_assoc]
    rcases dots last (by simp) with rfl | rfl
    · exact (dropTrail.eq_1 _).trans dropped
    · exact (dropTrail.eq_2 _).trans dropped

/-- **What is dropped off the end of a path** is idle. -/
theorem exists_append_dropTrail (path : Bytes) :
    ∃ trail, IsIdle trail ∧ path = trail.reverse ++ dropTrail path := by
  fun_induction dropTrail path with
  | case1 rest ih =>
    obtain ⟨trail, ⟨parts, dots, rfl⟩, split⟩ := ih
    refine ⟨_, ⟨parts ++ [[]], by simpa [or_imp, forall_and] using dots, rfl⟩, ?_⟩
    rw [List.flatMap_append, List.reverse_append, List.append_assoc, ← split]
    rfl
  | case2 rest ih =>
    obtain ⟨trail, ⟨parts, dots, rfl⟩, split⟩ := ih
    refine ⟨_, ⟨parts ++ [[dot]], by simpa [or_imp, forall_and] using dots, rfl⟩, ?_⟩
    rw [List.flatMap_append, List.reverse_append, List.append_assoc, ← split]
    rfl
  | case3 => exact ⟨[], isIdle_nil, rfl⟩

/-! ### The leaf of a path -/

theorem dropTrail_reverse (isWord : IsWord word) (outer : Bytes) :
    dropTrail (word.reverse ++ outer) = word.reverse ++ outer := by
  have whole : slash ∉ word.reverse := by simpa using isWord.whole
  cases shape : word.reverse with
  | nil => exact absurd (List.reverse_eq_nil_iff.mp shape) isWord.nonempty
  | cons last before =>
    rw [shape, List.mem_cons, not_or] at whole
    cases before with
    | nil =>
      have other : last ≠ dot := by
        rintro rfl
        exact isWord.not_dot (by simpa using congrArg List.reverse shape)
      exact dropTrail.eq_3 _ (fun rest same => whole.1 (List.cons.inj same).1.symm)
        fun rest same => other (List.cons.inj same).1
    | cons previous before =>
      rw [List.mem_cons, not_or] at whole
      exact dropTrail.eq_3 _ (fun rest same => whole.1 (List.cons.inj same).1.symm)
        fun rest same => whole.2.1 (List.cons.inj (List.cons.inj same).2).1.symm

theorem takeWhile_append_of_isFront (whole : slash ∉ word) (isFront : IsFront front) :
    (word.reverse ++ front.reverse).takeWhile (· != slash) = word.reverse ∧
      (word.reverse ++ front.reverse).dropWhile (· != slash) = front.reverse := by
  have keeps : ∀ byte ∈ word.reverse, (byte != slash) = true := by
    intro byte inside
    simp only [bne_iff_ne, ne_eq]
    rintro rfl
    exact whole (List.mem_reverse.mp inside)
  rw [List.takeWhile_append_of_pos keeps, List.dropWhile_append_of_pos keeps]
  rcases isFront.eq_nil_or_append with rfl | ⟨outer, rfl⟩ <;> simp

/-- **The leaf of a path with a trail.** -/
theorem leaf?_append_idle (isFront : IsFront front) (isWord : IsWord word) (isIdle : IsIdle trail) :
    leaf? (front ++ (word ++ trail)) = some ⟨front, word, trail⟩ := by
  obtain ⟨kept, dropped⟩ := takeWhile_append_of_isFront isWord.whole isFront
  have bare : dropTrail (front ++ (word ++ trail)).reverse = word.reverse ++ front.reverse := by
    rw [← List.append_assoc, List.reverse_append, dropTrail_append isIdle, List.reverse_append,
      dropTrail_reverse isWord]
  have behind : (front ++ (word ++ trail)).drop (word.reverse ++ front.reverse).length = trail := by
    rw [← List.append_assoc, ← List.reverse_append, List.length_reverse, List.drop_left]
  simp only [leaf?, bare, kept, dropped, behind, List.reverse_reverse, isWord.nonempty,
    isWord.not_dot, isWord.not_dots, or_self, if_false]

/-- **A path that has a leaf** is a front, a word and a trail. -/
theorem eq_of_leaf? {path : Path} {leaf : Leaf} (found : leaf? path = some leaf) :
    path = leaf.front ++ (leaf.name ++ leaf.trail) ∧ IsFront leaf.front ∧ IsWord leaf.name ∧
      IsIdle leaf.trail := by
  obtain ⟨trail, isIdle, split⟩ := exists_append_dropTrail path.reverse
  have cut := congrArg List.reverse split
  rw [List.reverse_reverse, List.reverse_append, List.reverse_reverse] at cut
  simp only [leaf?] at found
  generalize dropTrail path.reverse = bare at *
  split at found
  · cases found
  · next proper =>
    simp only [not_or] at proper
    cases found
    have halves : bare.reverse =
        (bare.dropWhile (· != slash)).reverse ++ (bare.takeWhile (· != slash)).reverse := by
      rw [← List.reverse_append, List.takeWhile_append_dropWhile]
    have rest : path.drop bare.length = trail := by
      rw [cut, ← List.length_reverse, List.drop_left]
    refine ⟨?_, ?_, ⟨proper.1, proper.2.1, proper.2.2, ?_⟩, ?_⟩
    · rw [rest, ← List.append_assoc, ← halves]
      exact cut
    · cases shape : bare.dropWhile (· != slash) with
      | nil => exact .inl rfl
      | cons first others =>
        have stops := List.head_dropWhile_not (p := (· != slash)) (l := bare) (by simp [shape])
        simp only [shape, List.head_cons, bne_eq_false_iff_eq] at stops
        exact .inr (by simp [stops])
    · intro inside
      have passes := List.all_eq_true.mp List.all_takeWhile _ (List.mem_reverse.mp inside)
      simp at passes
    · rwa [rest]

theorem name?_append (isFront : IsFront front) (isWord : IsWord word) :
    name? (front ++ word) = some word := by
  have leaf := leaf?_append_idle isFront isWord isIdle_nil
  rw [List.append_nil] at leaf
  rw [name?, leaf]
  rfl

/-! ### The components of a path -/

theorem Component.ofSegment?_word {word : Bytes} (isWord : IsWord word) :
    Component.ofSegment? word = some (.name word) := by
  rw [Component.ofSegment?, if_neg (by simp [isWord.nonempty, isWord.not_dot]),
    if_neg isWord.not_dots]

/-- The components of a path that is cut behind its first segment. -/
theorem components_eq {path : Path} {first : Bytes} {rest : List Bytes} (nonempty : path ≠ [])
    (cut : segments slash path = first :: rest) :
    components path =
      (Component.ofFront? [slash] first).toList ++ rest.filterMap Component.ofSegment? := by
  have front : Component.ofFront? path first = Component.ofFront? [slash] first := by
    simp [Component.ofFront?, nonempty]
  rw [components, cut]
  simp only [front]

/-- A segment put below a path is one more component, when it is one. -/
theorem components_under_segment {path text : Path} {part : Component} (nonempty : path ≠ [])
    (whole : slash ∉ text) (reads : Component.ofSegment? text = some part) :
    components (path.under text) = components path ++ [part] := by
  have last : segments slash text = [text] := segments_of_notMem whole
  -- Either way the path is cut before the text, perhaps with an empty segment at its own end.
  obtain ⟨outer, ends, shape, cut⟩ : ∃ (outer : Path) (ends : List Bytes),
      path.under text = outer ++ slash :: text ∧
        segments slash path = segments slash outer ++ ends ∧
        ends.filterMap Component.ofSegment? = [] := by
    unfold under
    split
    · next front =>
      obtain ⟨outer, rfl⟩ := List.getLast?_eq_some_iff.mp (front.resolve_left nonempty)
      refine ⟨outer, [[]], by simp, segments_append outer [], ?_⟩
      simp [Component.ofSegment?]
    · exact ⟨path, [], rfl, by simp, rfl⟩
  obtain ⟨first, rest, split⟩ := exists_segments slash outer
  have whole : segments slash (outer ++ slash :: text) = first :: (rest ++ [text]) := by
    rw [segments_append, last, split, List.cons_append]
  rw [shape, components_eq (by simp) whole]
  rw [split, List.cons_append] at cut
  rw [components_eq nonempty cut.1, List.filterMap_append, List.filterMap_append, cut.2]
  simp [reads]

/-- **A word put below a path** is one more component. -/
theorem components_under {path : Path} {word : Bytes} (nonempty : path ≠ [])
    (isWord : IsWord word) :
    components (path.under word) = components path ++ [.name word] :=
  components_under_segment nonempty isWord.whole (Component.ofSegment?_word isWord)

end Path

end Retarget
