/-
**The layout of a script.**

How blanks are laid out does not matter: what counts as markup asks only whether a blank stands at a
place, never which blank it is or how many follow. A name ends at the first blank behind it, and the
brackets with what may stand between them have their other characters in common whichever blanks
stand there. So a text that has each blank replaced by one or more blanks has markup when the text
has, and its target is the same.

* `Markup.Relaid`: a text with a gap in the place of each blank;
* `Markup.Alike`: two texts that differ in their gaps only, whichever of them was there first;
* `Markup.Alike.split`: the two texts on both sides of a character that is no blank;
* `Markup.Alike.inner`: what may stand between the brackets of a tag;
* `Markup.hasMarkup_eq_of_relaid`: markup and target of a text that is laid out anew.
-/

import Retarget.Proofs.Markup.Grammar
import Retarget.Script

namespace Retarget.Markup

section Layout

variable {text text' before behind word rest : List Char} {c : Char}

/-! ### Gaps -/

/-- Whether a text is made of blanks, and is not empty. -/
def IsGap (text : List Char) : Prop := text ≠ [] ∧ ∀ c ∈ text, isBlank c = true

instance : DecidablePred IsGap := fun text =>
  decidable_of_iff (text ≠ [] ∧ text.all isBlank = true) (by rw [IsGap, List.all_eq_true])

theorem IsGap.startsBlank (gap : IsGap text) (behind : List Char) : StartsBlank (text ++ behind) := by
  obtain ⟨nonempty, blank⟩ := gap
  obtain ⟨first, more, rfl⟩ := List.exists_cons_of_ne_nil nonempty
  exact ⟨first, more ++ behind, blank first List.mem_cons_self, rfl⟩

/-- Whether a text is another one with a gap in the place of each blank. -/
inductive Relaid : List Char → List Char → Prop where
  | nil : Relaid [] []
  | keep {c : Char} {text text' : List Char} : isBlank c = false → Relaid text text' →
      Relaid (c :: text) (c :: text')
  | blank {c : Char} {gap text text' : List Char} : isBlank c = true → IsGap gap →
      Relaid text text' → Relaid (c :: text) (gap ++ text')

/-- Whether two texts are the same but for their gaps. -/
inductive Alike : List Char → List Char → Prop where
  | nil : Alike [] []
  | keep {c : Char} {text text' : List Char} : isBlank c = false → Alike text text' →
      Alike (c :: text) (c :: text')
  | gap {gap gap' text text' : List Char} : IsGap gap → IsGap gap' → Alike text text' →
      Alike (gap ++ text) (gap' ++ text')

theorem Relaid.alike (relaid : Relaid text text') : Alike text text' := by
  induction relaid with
  | nil => exact .nil
  | keep shown _ ih => exact .keep shown ih
  | @blank c gap text text' blank isGap _ ih =>
    have single : IsGap [c] := ⟨List.cons_ne_nil _ _, by simpa using blank⟩
    exact .gap single isGap ih

namespace Alike

theorem symm (alike : Alike text text') : Alike text' text := by
  induction alike with
  | nil => exact .nil
  | keep shown _ ih => exact .keep shown ih
  | gap isGap isGap' _ ih => exact .gap isGap' isGap ih

theorem eq_nil (alike : Alike [] text') : text' = [] := by
  generalize empty : [] = text at alike
  cases alike with
  | nil => rfl
  | keep => cases empty
  | gap isGap => exact absurd (List.append_eq_nil_iff.mp empty.symm).1 isGap.1

/-- **A character that is no blank** stands in both texts, with texts on both sides of it that are
the same but for their gaps. -/
theorem split (alike : Alike (before ++ c :: behind) text') (shown : isBlank c = false) :
    ∃ before' behind', text' = before' ++ c :: behind' ∧ Alike before before' ∧
      Alike behind behind' := by
  generalize whole : before ++ c :: behind = text at alike
  induction alike generalizing before with
  | nil => simp at whole
  | @keep d text text' shown' alike ih =>
    cases before with
    | nil =>
      obtain ⟨rfl, rfl⟩ := List.cons.inj whole
      exact ⟨[], text', rfl, .nil, alike⟩
    | cons first before =>
      obtain ⟨rfl, rest⟩ := List.cons.inj whole
      obtain ⟨before', behind', rfl, front, back⟩ := ih rest
      exact ⟨first :: before', behind', rfl, .keep shown' front, back⟩
  | @gap gap gap' text text' isGap isGap' alike ih =>
    -- The character is no blank, so the whole gap stands before it.
    have inFront : ∃ more, before = gap ++ more ∧ more ++ c :: behind = text := by
      rcases List.append_eq_append_iff.mp whole with ⟨left, shape, split⟩ | ⟨more, rfl, rfl⟩
      · cases left with
        | nil => exact ⟨[], by simpa using shape.symm, split⟩
        | cons d left =>
          obtain ⟨rfl, -⟩ := List.cons.inj split
          have blank := isGap.2 c (by simp [shape])
          simp [shown] at blank
      · exact ⟨more, rfl, rfl⟩
    obtain ⟨more, rfl, rest⟩ := inFront
    obtain ⟨before', behind', rfl, front, back⟩ := ih rest
    exact ⟨gap' ++ before', behind', by simp, .gap isGap isGap' front, back⟩

/-- A word without blanks stands in front of both texts. -/
theorem exists_append (alike : Alike (word ++ rest) text') (shown : ∀ c ∈ word, isBlank c = false) :
    ∃ rest', text' = word ++ rest' ∧ Alike rest rest' := by
  induction word generalizing text' with
  | nil => exact ⟨text', rfl, alike⟩
  | cons c word ih =>
    rw [List.forall_mem_cons] at shown
    have first : Alike ([] ++ c :: (word ++ rest)) text' := alike
    obtain ⟨before', behind', rfl, none, back⟩ := first.split shown.1
    obtain ⟨rest', rfl, ends⟩ := ih back shown.2
    exact ⟨rest', by simp [none.eq_nil], ends⟩

theorem startsBlank (alike : Alike text text') (starts : StartsBlank text) : StartsBlank text' := by
  obtain ⟨blank, more, isBlank, shape⟩ := starts
  cases alike with
  | nil => cases shape
  | keep shown =>
    obtain ⟨rfl, -⟩ := List.cons.inj shape
    simp [shown] at isBlank
  | gap _ isGap' => exact isGap'.startsBlank _

theorem mem (alike : Alike text text') (shown : isBlank c = false) (inside : c ∈ text) :
    c ∈ text' := by
  obtain ⟨before, behind, rfl⟩ := List.append_of_mem inside
  obtain ⟨before', behind', rfl, -, -⟩ := alike.split shown
  simp

theorem bracketless (alike : Alike text text') (bracketless : Bracketless text) :
    Bracketless text' :=
  ⟨fun inside => bracketless.1 (alike.symm.mem (by decide) inside),
    fun inside => bracketless.2 (alike.symm.mem (by decide) inside)⟩

end Alike

/-! ### Names hold no blanks -/

/-- A range of printed characters of ASCII has no blank in it. -/
theorem isBlank_of_range {first last : Char} (low : '!' ≤ first) (high : last ≤ '~')
    (fits : (first ≤ c && c ≤ last) = true) : isBlank c = false := by
  rw [Bool.and_eq_true, decide_eq_true_eq, decide_eq_true_eq] at fits
  have above : 0x21 ≤ c.toNat := UInt32.le_iff_toNat_le.mp (Char.le_trans low fits.1)
  have below : c.toNat ≤ 0x7E := UInt32.le_iff_toNat_le.mp (Char.le_trans fits.2 high)
  simp only [isBlank, Bool.or_eq_false_iff, Bool.and_eq_false_iff, decide_eq_false_iff_not,
    beq_eq_false_iff_ne]
  omega

theorem isBlank_of_isUpper (fits : isUpper c = true) : isBlank c = false :=
  isBlank_of_range (by decide) (by decide) fits

theorem isBlank_of_isLower (fits : isLower c = true) : isBlank c = false :=
  isBlank_of_range (by decide) (by decide) fits

theorem isBlank_of_isDigit (fits : isDigit c = true) : isBlank c = false :=
  isBlank_of_range (by decide) (by decide) fits

theorem isBlank_of_isComponentChar (fits : isComponentChar c = true) : isBlank c = false := by
  simp only [isComponentChar, Bool.or_eq_true, beq_iff_eq] at fits
  rcases fits with (((upper | lower) | digit) | rfl) | rfl
  · exact isBlank_of_isUpper upper
  · exact isBlank_of_isLower lower
  · exact isBlank_of_isDigit digit
  · decide
  · decide

theorem isBlank_of_isElementChar (fits : isElementChar c = true) : isBlank c = false := by
  simp only [isElementChar, Bool.or_eq_true, beq_iff_eq] at fits
  rcases fits with (((upper | lower) | digit) | rfl) | rfl
  · exact isBlank_of_isUpper upper
  · exact isBlank_of_isLower lower
  · exact isBlank_of_isDigit digit
  · decide
  · decide

/-! ### Tags -/

namespace Alike

/-- **What may stand between the brackets of a tag** may stand there with other gaps. -/
theorem inner (alike : Alike text text') (shape : Inner text) : Inner text' := by
  cases shape with
  | opening =>
    rw [alike.eq_nil]
    exact .opening
  | closing =>
    have slashed : Alike (['/'] ++ []) text' := alike
    obtain ⟨rest', rfl, ends⟩ := slashed.exists_append (List.forall_mem_singleton.mpr rfl)
    rw [ends.eq_nil]
    exact .closing
  | @component first name rest start fits ends =>
    have shown : ∀ c ∈ first :: name, isBlank c = false :=
      List.forall_mem_cons.mpr ⟨isBlank_of_isUpper start,
        fun c inside => isBlank_of_isComponentChar (fits c inside)⟩
    obtain ⟨rest', rfl, alike'⟩ := exists_append alike shown
    refine .component start fits ?_
    rcases ends with rfl | rfl | blank
    · exact .inl alike'.eq_nil
    · have slashed : Alike (['/'] ++ []) rest' := alike'
      obtain ⟨rest'', rfl, ends⟩ := slashed.exists_append (List.forall_mem_singleton.mpr rfl)
      rw [ends.eq_nil]
      exact .inr (.inl rfl)
    · exact .inr (.inr (alike'.startsBlank blank))
  | @element first name rest start fits ends =>
    have shown : ∀ c ∈ first :: name, isBlank c = false :=
      List.forall_mem_cons.mpr ⟨isBlank_of_isLower start,
        fun c inside => isBlank_of_isElementChar (fits c inside)⟩
    obtain ⟨rest', rfl, alike'⟩ := exists_append alike shown
    refine .element start fits ?_
    rcases ends with rfl | blank
    · exact .inl alike'.eq_nil
    · exact .inr (alike'.startsBlank blank)

/-- **A text has markup** when one has that is the same but for its gaps. -/
theorem hasMarkup (alike : Alike text text') (found : hasMarkup text = true) :
    Retarget.hasMarkup text' = true := by
  simp only [Retarget.hasMarkup, List.any_eq_true, Pattern.occursIn_iff] at found ⊢
  obtain ⟨tag, listed, before, word, behind, rfl, tagged⟩ := found
  obtain ⟨inner, rfl, bare, shape⟩ := exists_matches_iff.mp ⟨tag, listed, tagged⟩
  have opens : Alike (before ++ '<' :: (inner ++ '>' :: behind)) text' := by simpa using alike
  obtain ⟨before', _, rfl, -, alike'⟩ := opens.split (by decide)
  obtain ⟨inner', behind', rfl, within, -⟩ := alike'.split (by decide)
  obtain ⟨tag', listed', tagged'⟩ :=
    exists_matches_iff.mpr ⟨inner', rfl, within.bracketless bare, within.inner shape⟩
  exact ⟨tag', listed', before', _, behind', by simp, tagged'⟩

end Alike

/-- **Layout decides nothing.** A text with one or more blanks in the place of each blank has markup
when the text has, and a source with either content has the same target. -/
theorem hasMarkup_eq_of_relaid (relaid : Relaid text text') :
    hasMarkup text' = hasMarkup text ∧
      ∀ source : Script.Source, source.target text' = source.target text := by
  have same : hasMarkup text' = hasMarkup text := by
    rw [Bool.eq_iff_iff]
    exact ⟨relaid.alike.symm.hasMarkup, relaid.alike.hasMarkup⟩
  refine ⟨same, fun source => ?_⟩
  cases source with
  | js => rw [Script.Source.target, Script.Source.target, same]
  | jsx => rfl

end Layout

namespace Wrapped

/-- An element with its attribute on a line of its own. -/
def text : List Char := ['<', ' ', '<', 'p', '\n', 'x', '>']

/-- The same with a line end of two characters and with indentation. -/
def relaid : List Char := ['<', '\u2003', '\t', '<', 'p', '\r', '\n', ' ', 'x', '>']

theorem isRelaid : Relaid text relaid := by
  have indent : IsGap ['\u2003', '\t'] := by decide
  have ends : IsGap ['\r', '\n', ' '] := by decide
  have behind : Relaid ['x', '>'] ['x', '>'] := .keep (by decide) (.keep (by decide) .nil)
  have tag : Relaid ['<', 'p', '\n', 'x', '>'] ['<', 'p', '\r', '\n', ' ', 'x', '>'] :=
    .keep (by decide) (.keep (by decide) (.blank (by decide) ends behind))
  exact .keep (by decide) (.blank (by decide) indent tag)

end Wrapped

/-- A tag over two lines is markup with either line end. -/
theorem hasMarkup_eq_of_relaid_wrapped :
    hasMarkup Wrapped.text = true ∧ hasMarkup Wrapped.relaid = true ∧
      ∀ source : Script.Source, source.target Wrapped.relaid = source.target Wrapped.text := by
  have marked : hasMarkup Wrapped.text = true := by cbv
  obtain ⟨markup, targets⟩ := hasMarkup_eq_of_relaid Wrapped.isRelaid
  exact ⟨marked, markup.trans marked, targets⟩

end Retarget.Markup
