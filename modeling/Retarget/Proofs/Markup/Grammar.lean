/-
**What counts as markup.**

The five shapes of a tag overlap. Together they say one thing about the text between two brackets
that has no bracket in it: it is nothing, a slash, a component name with an end, or an element name
with an end, where an end is nothing or starts with a blank. Only a component name may be followed
by a slash at once; a slash behind a blank is one of the characters that may stand there.

* `Markup.Inner`: the texts that may stand between the brackets of a tag;
* `Markup.exists_matches_iff`: the words of the five shapes;
* `Markup.hasMarkup_eq_true_iff`: a text has markup when it holds two brackets with such a text
  between them.
-/

import Retarget.Markup
import Retarget.Proofs.Pattern.Occurrence

namespace Retarget.Markup

open Pattern (Matches)

variable {name rest word : List Char} {c first : Char}

/-! ### Between two brackets -/

/-- Whether a text has no angle bracket in it. -/
def Bracketless (text : List Char) : Prop := '<' ∉ text ∧ '>' ∉ text

/-- Whether a text starts with a blank. -/
def StartsBlank (text : List Char) : Prop := ∃ blank more, isBlank blank = true ∧ text = blank :: more

/-- What may stand between the brackets of a tag. -/
inductive Inner : List Char → Prop where
  | opening : Inner []
  | closing : Inner ['/']
  | component {first : Char} {name rest : List Char} : isUpper first = true →
      (∀ c ∈ name, isComponentChar c = true) → (rest = [] ∨ rest = ['/'] ∨ StartsBlank rest) →
        Inner (first :: name ++ rest)
  | element {first : Char} {name rest : List Char} : isLower first = true →
      (∀ c ∈ name, isElementChar c = true) → (rest = [] ∨ StartsBlank rest) →
        Inner (first :: name ++ rest)

/-! ### Characters that are no brackets -/

/-- Whether a class leaves out the angle brackets. -/
def SparesBrackets (allowed : Char → Bool) : Prop := allowed '<' = false ∧ allowed '>' = false

theorem bracketless_of_forall {allowed : Char → Bool} (spares : SparesBrackets allowed)
    (fits : ∀ c ∈ word, allowed c = true) : Bracketless word := by
  refine ⟨fun inside => ?_, fun inside => ?_⟩
  · exact absurd (fits _ inside) (by simp [spares.1])
  · exact absurd (fits _ inside) (by simp [spares.2])

theorem bracketless_cons {allowed : Char → Bool} (spares : SparesBrackets allowed)
    (fits : allowed c = true) (bracketless : Bracketless word) : Bracketless (c :: word) := by
  have single : Bracketless [c] := bracketless_of_forall spares (by simpa using fits)
  simpa [Bracketless, not_or] using And.intro (And.intro single.1 bracketless.1)
    (And.intro single.2 bracketless.2)

theorem bracketless_append :
    Bracketless (word ++ rest) ↔ Bracketless word ∧ Bracketless rest := by
  simp only [Bracketless, List.mem_append, not_or]
  exact and_and_and_comm

theorem sparesBrackets_isUpper : SparesBrackets isUpper := ⟨by decide, by decide⟩

theorem sparesBrackets_isLower : SparesBrackets isLower := ⟨by decide, by decide⟩

theorem sparesBrackets_isComponentChar : SparesBrackets isComponentChar := ⟨by decide, by decide⟩

theorem sparesBrackets_isElementChar : SparesBrackets isElementChar := ⟨by decide, by decide⟩

theorem sparesBrackets_isBlank : SparesBrackets isBlank := ⟨by decide, by decide⟩

/-! ### The words of the shapes -/

/-- A name is a character to start with and characters to go on with. -/
theorem matches_name_iff {starts goes : Char → Bool} :
    Matches (.seq (.one starts) (.many (.one goes))) word ↔
      ∃ first name, word = first :: name ∧ starts first = true ∧ ∀ c ∈ name, goes c = true := by
  rw [Pattern.matches_seq_iff]
  simp only [Pattern.matches_one_iff, Pattern.matches_many_one_iff]
  constructor
  · rintro ⟨_, name, rfl, ⟨first, start, rfl⟩, fits⟩
    exact ⟨first, name, rfl, start, fits⟩
  · rintro ⟨first, name, rfl, start, fits⟩
    exact ⟨[first], name, rfl, ⟨first, start, rfl⟩, fits⟩

/-- Attributes are nothing, or start with a blank and hold no bracket. -/
theorem matches_attributes_iff :
    Matches attributes word ↔ word = [] ∨ StartsBlank word ∧ Bracketless word := by
  rw [attributes, Pattern.matches_optional_iff, matches_name_iff]
  refine or_congr Iff.rfl ⟨?_, ?_⟩
  · rintro ⟨blank, more, rfl, isBlank, fits⟩
    refine ⟨⟨blank, more, isBlank, rfl⟩, bracketless_cons sparesBrackets_isBlank isBlank ?_⟩
    exact bracketless_of_forall ⟨by decide, by decide⟩ fits
  · rintro ⟨⟨blank, more, isBlank, rfl⟩, below, above⟩
    refine ⟨blank, more, rfl, isBlank, fun c inside => ?_⟩
    rw [Bool.and_eq_true, bne_iff_ne, bne_iff_ne]
    rw [List.mem_cons, not_or] at below above
    exact ⟨fun same => below.2 (same ▸ inside), fun same => above.2 (same ▸ inside)⟩

/-- A tag with a name stands for a bracket, the name, the attributes and an end. -/
theorem matches_tag_iff {tagName : Pattern} {ending : String} :
    Matches (.inOrder [.literal "<", tagName, attributes, .literal ending]) word ↔
      ∃ name rest, word = '<' :: (name ++ rest ++ ending.toList) ∧ Matches tagName name ∧
        (rest = [] ∨ StartsBlank rest ∧ Bracketless rest) := by
  simp only [Pattern.matches_inOrder_cons_iff, Pattern.matches_inOrder_nil_iff,
    Pattern.matches_literal_iff, matches_attributes_iff]
  constructor
  · rintro ⟨_, _, rfl, rfl, name, _, rfl, named, rest, _, rfl, fits, _, _, rfl, rfl, rfl⟩
    exact ⟨name, rest, by simp, named, fits⟩
  · rintro ⟨name, rest, rfl, named, fits⟩
    exact ⟨['<'], _, rfl, rfl, name, _, List.append_assoc .., named, rest, _, rfl, fits,
      ending.toList, [], by simp, rfl, rfl⟩

/-- A name has no bracket in it, and neither have the attributes behind it. -/
theorem bracketless_tag {starts goes : Char → Bool} (spares : SparesBrackets starts)
    (spares' : SparesBrackets goes) (start : starts first = true)
    (fits : ∀ c ∈ name, goes c = true) (ends : rest = [] ∨ StartsBlank rest ∧ Bracketless rest) :
    Bracketless (first :: name ++ rest) := by
  have named : Bracketless (first :: name) :=
    bracketless_cons spares start (bracketless_of_forall spares' fits)
  refine bracketless_append.mpr ⟨named, ?_⟩
  rcases ends with rfl | ⟨-, bracketless⟩
  · exact ⟨by simp, by simp⟩
  · exact bracketless

/-- **The words of the five shapes** are two brackets with what may stand between them. -/
theorem exists_matches_iff : (∃ tag ∈ tags, Matches tag word) ↔
    ∃ inner, word = '<' :: (inner ++ ['>']) ∧ Bracketless inner ∧ Inner inner := by
  simp only [tags, List.mem_cons, List.not_mem_nil, or_false, exists_eq_or_imp, exists_eq_left,
    componentName, elementName, matches_tag_iff, matches_name_iff, Pattern.matches_literal_iff]
  constructor
  · rintro (⟨_, rest, rfl, ⟨first, name, rfl, start, fits⟩, ends⟩ |
      ⟨_, rest, rfl, ⟨first, name, rfl, start, fits⟩, ends⟩ | rfl | rfl |
      ⟨_, rest, rfl, ⟨first, name, rfl, start, fits⟩, ends⟩)
    · exact ⟨first :: name ++ rest, rfl,
        bracketless_tag sparesBrackets_isUpper sparesBrackets_isComponentChar start fits ends,
        .component start fits (ends.imp id fun blank => .inr blank.1)⟩
    · exact ⟨first :: name ++ rest, rfl,
        bracketless_tag sparesBrackets_isLower sparesBrackets_isElementChar start fits ends,
        .element start fits (ends.imp id And.left)⟩
    · exact ⟨[], rfl, ⟨by simp, by simp⟩, .opening⟩
    · exact ⟨['/'], rfl, ⟨by simp, by simp⟩, .closing⟩
    · have tagged := bracketless_tag sparesBrackets_isUpper sparesBrackets_isComponentChar start
        fits ends
      refine ⟨first :: name ++ (rest ++ ['/']), by simp, ?_, .component start fits ?_⟩
      · rw [← List.append_assoc]
        exact bracketless_append.mpr ⟨tagged, by simp, by simp⟩
      · rcases ends with rfl | ⟨⟨blank, more, isBlank, rfl⟩, -⟩
        · exact .inr (.inl rfl)
        · exact .inr (.inr ⟨blank, more ++ ['/'], isBlank, rfl⟩)
  · rintro ⟨inner, rfl, bracketless, shape⟩
    cases shape with
    | opening => exact .inr (.inr (.inl rfl))
    | closing => exact .inr (.inr (.inr (.inl rfl)))
    | @component first name rest start fits ends =>
      have named : ∃ first' name', first :: name = first' :: name' ∧ isUpper first' = true ∧
        ∀ c ∈ name', isComponentChar c = true := ⟨first, name, rfl, start, fits⟩
      rcases ends with rfl | rfl | blank
      · exact .inl ⟨_, [], rfl, named, .inl rfl⟩
      · exact .inr (.inr (.inr (.inr ⟨_, [], by simp, named, .inl rfl⟩)))
      · exact .inl ⟨_, rest, rfl, named, .inr ⟨blank, (bracketless_append.mp bracketless).2⟩⟩
    | @element first name rest start fits ends =>
      refine .inr (.inl ⟨_, rest, rfl, ⟨first, name, rfl, start, fits⟩, ?_⟩)
      exact ends.imp id fun blank => ⟨blank, (bracketless_append.mp bracketless).2⟩

/-- **A text has markup** when one of the five shapes occurs in it, which is when it holds two
brackets with a text between them that has no bracket in it and may stand there. -/
theorem hasMarkup_eq_true_iff (text : List Char) :
    (hasMarkup text = true ↔ ∃ tag ∈ tags, ∃ before word behind,
      text = before ++ word ++ behind ∧ Matches tag word) ∧
    (hasMarkup text = true ↔ ∃ before inner behind,
      text = before ++ '<' :: (inner ++ '>' :: behind) ∧ '<' ∉ inner ∧ '>' ∉ inner ∧
        Inner inner) := by
  have occurs : hasMarkup text = true ↔ ∃ tag ∈ tags, ∃ before word behind,
      text = before ++ word ++ behind ∧ Matches tag word := by
    simp only [hasMarkup, List.any_eq_true, Pattern.occursIn_iff]
  refine ⟨occurs, occurs.trans ⟨?_, ?_⟩⟩
  · rintro ⟨tag, listed, before, word, behind, rfl, found⟩
    obtain ⟨inner, rfl, ⟨below, above⟩, shape⟩ := exists_matches_iff.mp ⟨tag, listed, found⟩
    exact ⟨before, inner, behind, by simp, below, above, shape⟩
  · rintro ⟨before, inner, behind, rfl, below, above, shape⟩
    obtain ⟨tag, listed, found⟩ := exists_matches_iff.mpr ⟨inner, rfl, ⟨below, above⟩, shape⟩
    exact ⟨tag, listed, before, _, behind, by simp, found⟩

/-- A slash right behind a name closes a component and no element. -/
example : hasMarkup "<Main/>".toList = true ∧ hasMarkup "<main/>".toList = false := by decide

end Retarget.Markup
