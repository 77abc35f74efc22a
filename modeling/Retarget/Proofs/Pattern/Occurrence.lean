/-
**Where a pattern occurs.**

The derivative of a pattern by a character stands for the words that are left of its words behind
that character. So a pattern leads a text when one of its words does, and it occurs in a text when
one of its words stands somewhere in it.

* `Pattern.matches_seq_iff`, `Pattern.matches_many_one_iff` and the like: the words of a pattern,
  shape by shape;
* `Pattern.matches_derivative_iff`: the words of a derivative;
* `Pattern.leads_iff`: when a pattern leads a text;
* `Pattern.occursIn_iff`: when a pattern occurs in a text.
-/

import Mathlib.Data.List.Basic
import Retarget.Pattern

namespace Retarget.Pattern

variable {pattern first second body : Pattern} {allowed : Char → Bool} {c : Char}
  {word text : List Char}

/-! ### The words of a pattern -/

theorem not_matches_fail : ¬ Matches .fail word := fun found => nomatch found

@[simp] theorem matches_empty_iff : Matches .empty word ↔ word = [] := by
  constructor
  · rintro ⟨⟩
    rfl
  · rintro rfl
    exact .empty

@[simp] theorem matches_one_iff : Matches (.one allowed) word ↔ ∃ c, allowed c = true ∧ word = [c] := by
  constructor
  · rintro ⟨⟩
    exact ⟨_, ‹_›, rfl⟩
  · rintro ⟨c, fits, rfl⟩
    exact .one fits

theorem matches_seq_iff : Matches (.seq first second) word ↔
    ∃ left right, word = left ++ right ∧ Matches first left ∧ Matches second right := by
  constructor
  · rintro ⟨⟩
    exact ⟨_, _, rfl, ‹_›, ‹_›⟩
  · rintro ⟨left, right, rfl, before, behind⟩
    exact .seq before behind

@[simp] theorem matches_either_iff :
    Matches (.either first second) word ↔ Matches first word ∨ Matches second word := by
  constructor
  · rintro ⟨⟩
    · exact .inl ‹_›
    · exact .inr ‹_›
  · rintro (found | found)
    · exact .left found
    · exact .right found

@[simp] theorem matches_optional_iff :
    Matches (optional body) word ↔ word = [] ∨ Matches body word := by
  rw [optional, matches_either_iff, matches_empty_iff]

/-- A repetition that is not empty has a first round that is not empty. -/
theorem matches_many_cons_iff : Matches (.many body) (c :: word) ↔
    ∃ left right, word = left ++ right ∧ Matches body (c :: left) ∧ Matches (.many body) right := by
  constructor
  · intro found
    generalize whole : Pattern.many body = pattern at found
    generalize shape : c :: word = list at found
    -- The induction is on the rounds: those that read nothing are passed over.
    induction found with
    | @again body left right once more _ ih =>
      cases whole
      cases left with
      | nil => exact ih rfl shape
      | cons head left =>
        obtain ⟨rfl, rfl⟩ := List.cons.inj shape
        exact ⟨left, right, rfl, once, more⟩
    | done => cases shape
    | _ => cases whole
  · rintro ⟨left, right, rfl, once, more⟩
    exact .again once more

/-- **A repeated class** stands for the words over it. -/
theorem matches_many_one_iff :
    Matches (.many (.one allowed)) word ↔ ∀ c ∈ word, allowed c = true := by
  induction word with
  | nil => simpa using Matches.done
  | cons c rest ih =>
    rw [matches_many_cons_iff, List.forall_mem_cons, ← ih]
    constructor
    · rintro ⟨left, right, rfl, once, more⟩
      obtain ⟨head, fits, shape⟩ := matches_one_iff.mp once
      obtain ⟨rfl, rfl⟩ := List.cons.inj shape
      exact ⟨fits, more⟩
    · rintro ⟨fits, more⟩
      exact ⟨[], rest, rfl, .one fits, more⟩

/-- **A literal** stands for one word. -/
theorem matches_literal_iff {name : String} : Matches (literal name) word ↔ word = name.toList := by
  unfold literal
  generalize name.toList = letters
  induction letters generalizing word with
  | nil => exact matches_empty_iff
  | cons letter rest ih =>
    rw [List.foldr_cons, matches_seq_iff]
    simp only [ih, matches_one_iff, beq_iff_eq]
    constructor
    · rintro ⟨left, right, rfl, ⟨c, rfl, rfl⟩, rfl⟩
      rfl
    · rintro rfl
      exact ⟨[letter], rest, rfl, ⟨letter, rfl, rfl⟩, rfl⟩

@[simp] theorem matches_inOrder_nil_iff : Matches (inOrder []) word ↔ word = [] := matches_empty_iff

theorem matches_inOrder_cons_iff {parts : List Pattern} : Matches (inOrder (first :: parts)) word ↔
    ∃ left right, word = left ++ right ∧ Matches first left ∧ Matches (inOrder parts) right :=
  matches_seq_iff

/-! ### Derivatives -/

/-- A pattern is nullable when the empty word matches. -/
theorem nullable_iff : pattern.nullable = true ↔ Matches pattern [] := by
  induction pattern with
  | fail => simp [nullable, not_matches_fail]
  | empty => simp [nullable]
  | one allowed => simp [nullable]
  | seq first second left right => simp [nullable, left, right, matches_seq_iff]
  | either first second left right => simp [nullable, left, right]
  | many body => simpa [nullable] using Matches.done

theorem matches_andThen_iff :
    Matches (first.andThen second) word ↔ Matches (.seq first second) word := by
  cases first with
  | fail => simp [andThen, matches_seq_iff, not_matches_fail]
  | empty => simp [andThen, matches_seq_iff]
  | _ => rfl

theorem matches_orElse_iff :
    Matches (first.orElse second) word ↔ Matches first word ∨ Matches second word := by
  unfold orElse
  split
  · simp [not_matches_fail]
  · simp [not_matches_fail]
  · exact matches_either_iff

/-- A sequence that reads a character reads it with its first part, or with its second part when
the first one may be empty. -/
theorem matches_seq_cons_iff : Matches (.seq first second) (c :: word) ↔
    (∃ left right, word = left ++ right ∧ Matches first (c :: left) ∧ Matches second right) ∨
      Matches first [] ∧ Matches second (c :: word) := by
  rw [matches_seq_iff]
  constructor
  · rintro ⟨left, right, shape, before, behind⟩
    cases left with
    | nil => exact .inr ⟨before, by rwa [shape]⟩
    | cons head left =>
      obtain ⟨rfl, rfl⟩ := List.cons.inj shape
      exact .inl ⟨left, right, rfl, before, behind⟩
  · rintro (⟨left, right, rfl, before, behind⟩ | ⟨before, behind⟩)
    · exact ⟨c :: left, right, rfl, before, behind⟩
    · exact ⟨[], c :: word, rfl, before, behind⟩

/-- **The words of a derivative** are what is left of the words that start with the character. -/
theorem matches_derivative_iff :
    Matches (pattern.derivative c) word ↔ Matches pattern (c :: word) := by
  induction pattern generalizing word with
  | fail => simp [derivative, not_matches_fail]
  | empty => simp [derivative, not_matches_fail]
  | one allowed =>
    rw [derivative]
    split <;> simp_all [not_matches_fail]
  | seq first second left right =>
    rw [derivative, matches_seq_cons_iff, ← nullable_iff]
    by_cases skips : first.nullable = true
    · simp only [skips, if_true, matches_orElse_iff, matches_andThen_iff, matches_seq_iff, left,
        right, true_and]
    · simp only [skips, Bool.false_eq_true, if_false, matches_andThen_iff, matches_seq_iff, left,
        false_and, or_false]
  | either first second left right =>
    simp only [derivative, matches_orElse_iff, matches_either_iff, left, right]
  | many body ih =>
    simp only [derivative, matches_andThen_iff, matches_seq_iff, matches_many_cons_iff, ih]

/-! ### Occurrences -/

theorem leads_nil (pattern : Pattern) : pattern.leads [] = pattern.nullable := by
  cases pattern <;> rfl

theorem leads_cons (pattern : Pattern) (c : Char) (rest : List Char) :
    pattern.leads (c :: rest) = (pattern.nullable || (pattern.derivative c).leads rest) := by
  cases pattern with
  | fail => cases rest <;> rfl
  | _ => rfl

/-- **A pattern leads a text** when one of its words does. -/
theorem leads_iff : pattern.leads text = true ↔
    ∃ word behind, text = word ++ behind ∧ Matches pattern word := by
  induction text generalizing pattern with
  | nil => simp [leads_nil, nullable_iff]
  | cons c rest ih =>
    rw [leads_cons, Bool.or_eq_true, nullable_iff, ih]
    constructor
    · rintro (found | ⟨word, behind, rfl, found⟩)
      · exact ⟨[], c :: rest, rfl, found⟩
      · exact ⟨c :: word, behind, rfl, matches_derivative_iff.mp found⟩
    · rintro ⟨word, behind, shape, found⟩
      cases word with
      | nil => exact .inl found
      | cons head word =>
        obtain ⟨rfl, rfl⟩ := List.cons.inj shape
        exact .inr ⟨word, behind, rfl, matches_derivative_iff.mpr found⟩

/-- **A pattern occurs in a text** when one of its words stands somewhere in it. -/
theorem occursIn_iff : pattern.occursIn text = true ↔
    ∃ before word behind, text = before ++ word ++ behind ∧ Matches pattern word := by
  induction text with
  | nil => simp [occursIn, leads_nil, nullable_iff]
  | cons c rest ih =>
    rw [occursIn, Bool.or_eq_true, leads_iff, ih]
    constructor
    · rintro (⟨word, behind, shape, found⟩ | ⟨before, word, behind, rfl, found⟩)
      · exact ⟨[], word, behind, shape, found⟩
      · exact ⟨c :: before, word, behind, rfl, found⟩
    · rintro ⟨before, word, behind, shape, found⟩
      cases before with
      | nil => exact .inl ⟨word, behind, shape, found⟩
      | cons head before =>
        obtain ⟨rfl, rfl⟩ := List.cons.inj shape
        exact .inr ⟨before, word, behind, rfl, found⟩

end Retarget.Pattern
