/-
**Ignore tokens, segment by segment.**

A token is tested against the text of a path at all places. Cut at `/`, the text of a path that
holds a token falls into segments of which some are the segments of the token: the first one may
have more in front of it, all others are met whole, and where the last one ends the path the first
one is met whole as well.

* `exists_segments_append`: the segments of a text with another text in front of it;
* `infix_iff_segments` and `suffix_iff_segments`: a token before a separator, and at the end;
* `Ignore.tokenExcludes_iff_segments`: one token against the segments of a path;
* `Ignore.tokenExcludes_append_iff`: a token without `/` on both sides of a `/`;
* `Ignore.Fits` and `Ignore.excludes_iff_fits`: the same by places.
-/

import Retarget.Proofs.Ignore.Directory

namespace Retarget

/-! ### Stretches and segments -/

section Segments

variable {α : Type} [BEq α] [LawfulBEq α] {sep : α} {word list first : List α}
  {others : List (List α)}

omit [LawfulBEq α] in
/-- **What stands in front of a text** goes on into its first segment. -/
theorem exists_segments_append (before : List α) (cut : segments sep word = first :: others) :
    ∃ outer last, segments sep before = outer ++ [last] ∧
      segments sep (before ++ word) = outer ++ (last ++ first) :: others := by
  induction before with
  | nil => exact ⟨[], [], rfl, cut⟩
  | cons a rest ih =>
    obtain ⟨outer, last, ends, joined⟩ := ih
    rw [List.cons_append, segments, segments, ends, joined]
    by_cases same : (a == sep) = true
    · exact ⟨[] :: outer, last, by simp [same], by simp [same]⟩
    · cases outer with
      | nil => exact ⟨[], a :: last, by simp [same], by simp [same]⟩
      | cons head outer =>
        exact ⟨(a :: head) :: outer, last, by simp [same], by simp [same]⟩

/-- **A text before a separator**: its segments are met in a row, the first one perhaps at the end
of a longer one, and more segments follow. -/
theorem infix_iff_segments (cut : segments sep word = first :: others) :
    word ++ [sep] <:+: list ↔ ∃ outer start inner, inner ≠ [] ∧
      segments sep list = outer ++ (start ++ first) :: (others ++ inner) := by
  constructor
  · rintro ⟨before, behind, rfl⟩
    obtain ⟨outer, last, -, joined⟩ := exists_segments_append before cut
    obtain ⟨head, rest, more⟩ := exists_segments sep behind
    refine ⟨outer, last, segments sep behind, by simp [more], ?_⟩
    calc segments sep (before ++ (word ++ [sep]) ++ behind)
        = segments sep ((before ++ word) ++ sep :: behind) := by simp
      _ = segments sep (before ++ word) ++ segments sep behind := segments_append _ _
      _ = outer ++ (last ++ first) :: (others ++ segments sep behind) := by simp [joined]
  · rintro ⟨outer, start, inner, nonempty, split⟩
    obtain ⟨head, rest, rfl⟩ := List.exists_cons_of_ne_nil nonempty
    have whole := cons_eq_flatMap_segments sep list
    have text := cons_eq_flatMap_segments sep word
    rw [cut, List.flatMap_cons, List.cons_append, List.cons.injEq] at text
    have spelled : sep :: list = (outer ++ [start]).flatMap (sep :: ·) ++
        (word ++ [sep] ++ (head ++ rest.flatMap (sep :: ·))) := by
      rw [whole, split, text.2]
      simp
    -- The separator in front of all segments stands before the text too.
    cases outer with
    | nil =>
      refine ⟨start, head ++ rest.flatMap (sep :: ·), ?_⟩
      simpa using spelled.symm
    | cons front outer =>
      refine ⟨front ++ (outer ++ [start]).flatMap (sep :: ·), head ++ rest.flatMap (sep :: ·), ?_⟩
      simpa using spelled.symm

/-- **A text at the end**, behind a separator or from the start: its segments are the last ones. -/
theorem suffix_iff_segments :
    sep :: word <:+ list ∨ list = word ↔
      ∃ outer, segments sep list = outer ++ segments sep word := by
  constructor
  · rintro (⟨before, rfl⟩ | rfl)
    · exact ⟨segments sep before, segments_append before word⟩
    · exact ⟨[], rfl⟩
  · rintro ⟨outer, split⟩
    have whole := cons_eq_flatMap_segments sep list
    rw [split, List.flatMap_append, ← cons_eq_flatMap_segments] at whole
    cases outer with
    | nil => exact .inr (List.cons.inj whole).2
    | cons front outer =>
      refine .inl ⟨front ++ outer.flatMap (sep :: ·), ?_⟩
      simpa using whole.symm

end Segments

namespace Ignore

variable {token path : List Char} {first : List Char} {others : List (List Char)}

/-! ### One token -/

/-- **One token against the segments of a path.** -/
theorem tokenExcludes_iff_segments (cut : segments '/' token = first :: others) :
    tokenExcludes token path = true ↔ ∃ outer start inner,
      segments '/' path = outer ++ (start ++ first) :: (others ++ inner) ∧
        (inner ≠ [] ∨ start = []) := by
  rw [tokenExcludes_iff, infix_iff_segments cut, suffix_iff_segments, cut]
  constructor
  · rintro (⟨outer, start, inner, nonempty, split⟩ | ⟨outer, split⟩)
    · exact ⟨outer, start, inner, split, .inl nonempty⟩
    · exact ⟨outer, [], [], by simpa using split, .inr rfl⟩
  · rintro ⟨outer, start, inner, split, ends⟩
    cases inner with
    | nil =>
      obtain rfl := ends.resolve_left (by simp)
      exact .inr ⟨outer, by simpa using split⟩
    | cons head rest => exact .inl ⟨outer, start, head :: rest, by simp, split⟩

/-- **A token without `/`** on both sides of a `/`: in front of it a segment that ends with the
token is enough. -/
theorem tokenExcludes_append_iff {before behind : List Char} (whole : '/' ∉ token) :
    tokenExcludes token (before ++ '/' :: behind) = true ↔
      (∃ segment ∈ segments '/' before, token <:+ segment) ∨ tokenExcludes token behind = true := by
  have cut : segments '/' token = [token] := segments_of_notMem whole
  simp only [tokenExcludes_iff_segments cut, segments_append, List.nil_append]
  constructor
  · rintro ⟨outer, start, inner, split, ends⟩
    obtain ⟨more, -, split⟩ | ⟨met, split, same⟩ := List.append_eq_append_iff.mp split
    · exact .inr ⟨more, start, inner, split, ends⟩
    · cases met with
      | nil => exact .inr ⟨[], start, inner, same.symm, ends⟩
      | cons segment met =>
        obtain ⟨rfl, -⟩ := List.cons.inj same
        exact .inl ⟨start ++ token, by simp [split], List.suffix_append _ _⟩
  · rintro (⟨_, inside, start, rfl⟩ | ⟨outer, start, inner, split, ends⟩)
    · obtain ⟨outer, inner, split⟩ := List.append_of_mem inside
      refine ⟨outer, start, inner ++ segments '/' behind, by simp [split], .inl ?_⟩
      obtain ⟨head, rest, more⟩ := exists_segments '/' behind
      simp [more]
    · exact ⟨segments '/' before ++ outer, start, inner, by simp [split], ends⟩

/-! ### Places -/

/-- Whether the segments of a token are met in a path from a place on: the first one ends the
segment at the place, the others are the segments behind it, and where the path ends with them the
first one is the whole segment. -/
structure Fits (token path : List (List Char)) (place : Nat) : Prop where
  starts : ∃ first segment, token[0]? = some first ∧ path[place]? = some segment ∧ first <:+ segment
  goesOn : ∀ i, 0 < i → i < token.length → path[place + i]? = token[i]?
  ends : place + token.length < path.length ∨
    place + token.length = path.length ∧ path[place]? = token[0]?

/-- A token fits at a place when the segments of the path fall apart there. -/
theorem fits_iff {path : List (List Char)} {place : Nat} :
    Fits (first :: others) path place ↔ ∃ outer start inner, outer.length = place ∧
      path = outer ++ (start ++ first) :: (others ++ inner) ∧ (inner ≠ [] ∨ start = []) := by
  constructor
  · rintro ⟨⟨_, _, starts, found, start, rfl⟩, goesOn, ends⟩
    obtain rfl := Option.some.inj starts
    obtain ⟨short, whole⟩ := List.getElem?_eq_some_iff.mp found
    have cut : path = path.take place ++ (start ++ first) :: path.drop (place + 1) := by
      rw [← whole, ← List.drop_eq_getElem_cons short, List.take_append_drop]
    have met : others <+: path.drop (place + 1) := by
      refine List.prefix_iff_getElem?.mpr fun i inside => ?_
      have same := goesOn (i + 1) (Nat.succ_pos i) (by simpa using inside)
      rw [List.getElem?_drop, Nat.add_right_comm, Nat.add_assoc, same, List.getElem?_cons_succ,
        List.getElem?_eq_getElem inside]
    obtain ⟨inner, behind⟩ := met
    rw [← behind] at cut
    refine ⟨path.take place, start, inner, by simp [short.le], cut, ?_⟩
    rcases ends with before | ⟨-, same⟩
    · left
      rintro rfl
      have long := congrArg List.length behind
      simp only [List.length_append, List.length_drop, List.length_cons, List.length_nil]
        at long before
      omega
    · right
      rw [found] at same
      simpa using Option.some.inj same
  · rintro ⟨outer, start, inner, rfl, rfl, ends⟩
    refine ⟨⟨first, start ++ first, rfl, by simp, List.suffix_append _ _⟩,
      fun i pos short => ?_, ?_⟩
    · obtain ⟨i, rfl⟩ := Nat.exists_eq_succ_of_ne_zero (Nat.pos_iff_ne_zero.mp pos)
      have inside : i < others.length := by simpa using short
      simp [List.getElem?_append, inside]
    · cases inner with
      | nil =>
        obtain rfl := ends.resolve_left (by simp)
        exact .inr ⟨by simp, by simp⟩
      | cons head rest => exact .inl (by simp)

/-- **Ignore tokens by segments.** A list of tokens excludes a path when some token fits the path at
some place, both cut at `/`; so it matters which tokens are in the list, and not where or how often.
-/
theorem excludes_iff_fits (tokens : List String) (path : List Char) :
    (excludes tokens path = true ↔ ∃ token ∈ tokens, ∃ place,
      Fits (segments '/' token.toList) (segments '/' path) place) ∧
    ∀ others : List String, (∀ token, token ∈ tokens ↔ token ∈ others) →
      excludes others path = excludes tokens path := by
  have meaning : ∀ tokens : List String, excludes tokens path = true ↔
      ∃ token ∈ tokens, ∃ place, Fits (segments '/' token.toList) (segments '/' path) place := by
    intro tokens
    rw [excludes, List.any_eq_true]
    refine exists_congr fun token => and_congr_right fun _ => ?_
    obtain ⟨first, others, cut⟩ := exists_segments '/' token.toList
    rw [tokenExcludes_iff_segments cut, cut]
    constructor
    · rintro ⟨outer, start, inner, split, ends⟩
      exact ⟨outer.length, fits_iff.mpr ⟨outer, start, inner, rfl, split, ends⟩⟩
    · rintro ⟨place, fits⟩
      obtain ⟨outer, start, inner, -, split, ends⟩ := fits_iff.mp fits
      exact ⟨outer, start, inner, split, ends⟩
  refine ⟨meaning tokens, fun others same => ?_⟩
  rw [Bool.eq_iff_iff, meaning, meaning]
  simp only [same]

/-- The token `b/c` excludes what lies below `ab/c`, but neither the file `ab/c` nor one in `ab/cd`,
and a list with the token twice and in another place says the same. -/
theorem excludes_iff_fits_partial :
    (excludes ["x", "b/c"] "r/ab/c/d".toList = true ∧
      excludes ["x", "b/c"] "r/ab/c".toList = false ∧
        excludes ["x", "b/c"] "r/ab/cd/e".toList = false) ∧
    excludes ["b/c", "x", "b/c"] "r/ab/c/d".toList = true := by
  have fits : Fits (segments '/' "b/c".toList) (segments '/' "r/ab/c/d".toList) 1 := by
    refine ⟨⟨['b'], ['a', 'b'], by decide, by decide, ⟨['a'], rfl⟩⟩, fun i pos short => ?_,
      .inl (by decide)⟩
    have two : (segments '/' "b/c".toList).length = 2 := by decide
    obtain rfl : i = 1 := by omega
    decide
  have below : excludes ["x", "b/c"] "r/ab/c/d".toList = true :=
    (excludes_iff_fits _ _).1.mpr ⟨"b/c", by simp, 1, fits⟩
  refine ⟨⟨below, by decide, by decide⟩, ?_⟩
  rw [(excludes_iff_fits ["x", "b/c"] _).2 ["b/c", "x", "b/c"] (by simp [or_comm])]
  exact below

end Ignore

end Retarget
