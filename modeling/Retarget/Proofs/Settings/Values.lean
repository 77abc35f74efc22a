/-
**Reading the values of a settings file.**

The items of a list and the members of an object go on in the same way: behind white space there is
the closing bracket, or what stands in front of one more item. A value is read when it stands behind
white space. What follows a value in a settings file never continues a number, so no value is cut
short.

* `SettingsFile.nextItem_eq_item_iff` and `SettingsFile.nextItem_eq_close_iff`: how a list goes on;
* `SettingsFile.tokenList_eq_ok_iff`: a list of strings;
* `SettingsFile.exists_of_fieldValue` and `SettingsFile.WritesValue.fieldValue_append`: the value
  of a field, there and back.
-/

import Retarget.Proofs.Settings.Literals

namespace Retarget.SettingsFile

variable {text rest written space : List Char} {c : Char} {first : Bool}

/-! ### White space between items -/

theorem IsSpaces.append {gap : List Char} (isSpaces : IsSpaces space) (isGap : IsSpaces gap) :
    IsSpaces (space ++ gap) :=
  List.forall_mem_append.mpr ⟨isSpaces, isGap⟩

theorem Leads.append_spaces {lead : List Char} (leads : Leads first lead)
    (isSpaces : IsSpaces space) : Leads first (lead ++ space) := by
  cases leads with
  | first isLead => exact .first (isLead.append isSpaces)
  | other isLead isGap =>
    rw [List.append_assoc, List.cons_append]
    exact .other isLead (isGap.append isSpaces)

/-- The first character behind white space is none. -/
theorem isSpace_of_skipSpace (start : skipSpace text = c :: rest) : isSpace c = false := by
  have stops := List.head?_dropWhile_not isSpace text
  rw [← skipSpace, start] at stops
  exact stops

/-- Whether an item can stand in front of a text. -/
def StartsItem (text : List Char) : Prop :=
  ∃ c rest, text = c :: rest ∧ isSpace c = false ∧ c ≠ ']'

theorem nextItem_eq_close_iff : nextItem first text = .ok (.close rest) ↔
    ∃ space, IsSpaces space ∧ text = space ++ ']' :: rest := by
  constructor
  · intro next
    obtain ⟨space, isSpaces, shape⟩ := exists_spaces text
    unfold nextItem at next
    split at next
    · cases next
    · next start =>
      cases next
      exact ⟨space, isSpaces, start ▸ shape⟩
    · split at next
      · cases next
      · split at next
        · split at next <;> cases next
        · cases next
  · rintro ⟨space, isSpaces, rfl⟩
    rw [nextItem, skipSpace_spaces isSpaces (by decide)]
    rfl

theorem nextItem_eq_item_iff {start : List Char} : nextItem first text = .ok (.item start) ↔
    StartsItem start ∧ ∃ lead, Leads first lead ∧ text = lead ++ start := by
  constructor
  · intro next
    obtain ⟨space, isSpaces, shape⟩ := exists_spaces text
    unfold nextItem at next
    split at next
    · cases next
    · cases next
    · next c behind other begins =>
      have shown := isSpace_of_skipSpace begins
      rw [begins] at shape
      split at next
      · next isFirst =>
        cases next
        refine ⟨⟨c, behind, rfl, shown, ?_⟩, space, isFirst ▸ .first isSpaces, shape⟩
        rintro rfl
        exact other rfl
      · next isFirst =>
        obtain rfl : first = false := by simpa using isFirst
        split at next
        · next comma =>
          obtain ⟨gap, isGap, split⟩ := exists_spaces behind
          split at next
          · cases next
          · cases next
          · next nonempty other =>
            cases next
            cases item : skipSpace behind with
            | nil => exact absurd item nonempty
            | cons d more =>
              refine ⟨⟨d, more, rfl, isSpace_of_skipSpace item, ?_⟩, space ++ ',' :: gap,
                .other isSpaces isGap, ?_⟩
              · rintro rfl
                exact other more item
              · rw [shape, comma, split, item]
                simp
        · cases next
  · rintro ⟨⟨c, behind, rfl, shown, other⟩, lead, leads, rfl⟩
    cases leads with
    | first isSpaces =>
      rw [nextItem, skipSpace_spaces isSpaces shown]
      split
      · next same => cases same
      · next same => exact absurd (List.cons.inj same).1 other
      · next same =>
        cases same
        rfl
    | @other space gap isSpaces isGap =>
      have inner := skipSpace_spaces isGap shown behind
      rw [List.append_assoc, List.cons_append, nextItem, skipSpace_spaces isSpaces (by decide)]
      split
      · next same => cases same
      · next same => exact absurd (List.cons.inj same).1 (by decide)
      · next same =>
        cases same
        rw [if_neg (by decide), if_pos rfl, inner]
        split
        · next same => cases same
        · next same => exact absurd (List.cons.inj same).1 other
        · rfl

/-! ### Lists of strings -/

theorem WritesString.startsItem {token : String} (writes : WritesString written token)
    (rest : List Char) : StartsItem (written ++ rest) := by
  obtain ⟨inside, rfl⟩ := writes.exists_cons
  exact ⟨'"', inside ++ rest, rfl, by decide, by decide⟩

theorem elements_close (done : List String) (next : nextItem first text = .ok (.close rest)) :
    elements first done text = .ok (done.reverse, rest) := by
  rw [elements]
  split <;> simp_all

theorem elements_item {start token : List Char} (done : List String)
    (next : nextItem first text = .ok (.item start))
    (read : stringValue start = .ok (token, rest)) :
    elements first done text = elements false (String.ofList token :: done) rest := by
  rw [elements]
  split
  · simp_all
  · simp_all
  · next other =>
    obtain rfl : _ = start := by simpa [next] using other.symm
    split <;> simp_all

theorem exists_of_elements {done tokens : List String}
    (read : elements first done text = .ok (tokens, rest)) :
    ∃ inside more, text = inside ++ ']' :: rest ∧ Items WritesString first inside more ∧
      tokens = done.reverse ++ more := by
  fun_induction elements first done text with
  | case1 => cases read
  | case2 first done text behind next =>
    cases read
    obtain ⟨space, isSpaces, rfl⟩ := nextItem_eq_close_iff.mp next
    exact ⟨space, [], rfl, .nil isSpaces, by simp⟩
  | case3 => cases read
  | case4 first done text start next token behind string ih =>
    obtain ⟨-, lead, leads, rfl⟩ := nextItem_eq_item_iff.mp next
    obtain ⟨written, rfl, writes⟩ := stringValue_eq_ok_iff.mp string
    obtain ⟨inside, more, rfl, items, rfl⟩ := ih read
    exact ⟨_, _, by simp, .cons leads writes items, by simp⟩

theorem elements_append {inside : List Char} {tokens : List String}
    (items : Items WritesString first inside tokens) (done : List String) (rest : List Char) :
    elements first done (inside ++ ']' :: rest) = .ok (done.reverse ++ tokens, rest) := by
  induction items generalizing done with
  | nil isSpaces =>
    rw [elements_close done (nextItem_eq_close_iff.mpr ⟨_, isSpaces, rfl⟩), List.append_nil]
  | @cons first lead written text token tokens leads writes _ ih =>
    have next : nextItem first (lead ++ (written ++ (text ++ ']' :: rest))) =
        .ok (.item (written ++ (text ++ ']' :: rest))) :=
      nextItem_eq_item_iff.mpr ⟨writes.startsItem _, lead, leads, rfl⟩
    have read : stringValue (written ++ (text ++ ']' :: rest)) =
        .ok (token.toList, text ++ ']' :: rest) :=
      stringValue_eq_ok_iff.mpr ⟨written, rfl, by rwa [String.ofList_toList]⟩
    rw [List.append_assoc, List.append_assoc, elements_item done next read, ih]
    simp

/-- **A list of strings** is read when it stands behind white space. -/
theorem tokenList_eq_ok_iff {tokens : List String} : tokenList text = .ok (tokens, rest) ↔
    ∃ space written, IsSpaces space ∧ WritesTokens written tokens ∧
      text = space ++ (written ++ rest) := by
  constructor
  · intro read
    obtain ⟨space, isSpaces, shape⟩ := exists_spaces text
    unfold tokenList at read
    split at read
    · next start =>
      obtain ⟨inside, more, rfl, items, rfl⟩ := exists_of_elements read
      exact ⟨space, _, isSpaces, .listed items, by rw [shape, start]; simp⟩
    · cases read
  · rintro ⟨space, written, isSpaces, ⟨items⟩, rfl⟩
    rw [List.cons_append, List.append_assoc, tokenList, skipSpace_spaces isSpaces (by decide)]
    exact elements_append items [] rest

/-! ### The value of a field -/

/-- **The value of a field** that is read stands behind white space. -/
theorem exists_of_fieldValue {field : Field} {given : Given}
    (read : fieldValue field text = .ok (given, rest)) :
    given.field = field ∧ ∃ space written, IsSpaces space ∧ WritesValue written given ∧
      text = space ++ (written ++ rest) := by
  cases field with
  | ignore =>
    obtain ⟨_, value, same⟩ := exists_of_map_eq_ok read
    cases same
    exact ⟨rfl, tokenList_eq_ok_iff.mp value⟩
  | keepOriginals | strict =>
    obtain ⟨_, value, same⟩ := exists_of_map_eq_ok read
    cases same
    exact ⟨rfl, booleanValue_eq_ok_iff.mp value⟩
  | maxConcurrency =>
    obtain ⟨_, value, same⟩ := exists_of_map_eq_ok read
    cases same
    obtain ⟨space, written, isSpaces, writes, -, shape⟩ := countValue_eq_ok_iff.mp value
    exact ⟨rfl, space, written, isSpaces, writes, shape⟩

theorem WritesValue.fieldValue_append {given : Given} (writes : WritesValue written given)
    (isSpaces : IsSpaces space) (past : IsPastNumber rest) :
    fieldValue given.field (space ++ (written ++ rest)) = .ok (given, rest) := by
  cases given with
  | ignore =>
    simp only [fieldValue, Given.field,
      tokenList_eq_ok_iff.mpr ⟨space, written, isSpaces, writes, rfl⟩]
    rfl
  | keepOriginals | strict =>
    simp only [fieldValue, Given.field,
      booleanValue_eq_ok_iff.mpr ⟨space, written, isSpaces, writes, rfl⟩]
    rfl
  | maxConcurrency =>
    simp only [fieldValue, Given.field,
      countValue_eq_ok_iff.mpr ⟨space, written, isSpaces, writes, fun _ => past, rfl⟩]
    rfl

theorem WritesValue.startsItem {given : Given} (writes : WritesValue written given)
    (rest : List Char) : StartsItem (written ++ rest) := by
  cases given with
  | ignore =>
    cases writes
    exact ⟨_, _, rfl, by decide, by decide⟩
  | keepOriginals | strict =>
    cases writes <;> exact ⟨_, _, rfl, by decide, by decide⟩
  | maxConcurrency =>
    cases writes with
    | null => exact ⟨_, _, rfl, by decide, by decide⟩
    | natural nonempty digit =>
      cases written with
      | nil => exact absurd rfl nonempty
      | cons c run =>
        have first := digit c List.mem_cons_self
        exact ⟨c, run ++ rest, rfl, not_isSpace_of_isDigit first, ne_of_isDigit first (by decide)⟩

/-! ### What follows a value -/

theorem isPastNumber_cons (other : isDigit c = false ∧ c ≠ '.' ∧ c ≠ 'e' ∧ c ≠ 'E')
    (rest : List Char) : IsPastNumber (c :: rest) := by
  intro d start
  cases start
  exact other

/-- White space does not continue a number. -/
theorem isPastNumber_spaces (isSpaces : IsSpaces space) (past : IsPastNumber (c :: rest)) :
    IsPastNumber (space ++ c :: rest) := by
  cases space with
  | nil => exact past
  | cons d space =>
    have blank := isSpaces d List.mem_cons_self
    simp only [isSpace, Bool.or_eq_true, beq_iff_eq] at blank
    refine isPastNumber_cons ?_ _
    rcases blank with ((rfl | rfl) | rfl) | rfl <;> decide

/-- **What follows an item** up to a closing bracket does not continue a number. -/
theorem Items.isPastNumber {α : Type} {Writes : List Char → α → Prop} {inside : List Char}
    {list : List α} (items : Items Writes false inside list) (past : IsPastNumber (c :: rest)) :
    IsPastNumber (inside ++ c :: rest) := by
  cases items with
  | nil isSpaces => exact isPastNumber_spaces isSpaces past
  | cons leads =>
    cases leads with
    | other isSpaces =>
      rw [List.append_assoc, List.append_assoc, List.cons_append]
      exact isPastNumber_spaces isSpaces (isPastNumber_cons (by decide) _)

end Retarget.SettingsFile
