/-
**A settings file is read exactly when it is of the format.**

The members of an object are read one by one, and each puts its value into the settings; since no
field comes twice, no value that is put in is lost. The array form is read as four values, which are
put in just so. Reading in either form finds the items that stand in the text, and a text that is
made of such items is read as them.

* `SettingsFile.exists_of_members` and `SettingsFile.members_append`: an object, there and back;
* `SettingsFile.exists_of_fourValues` and `SettingsFile.fourValues_append`: an array, there and
  back;
* `SettingsFile.sets_foldl` and `SettingsFile.Sets.unique`: the values that are put in determine the
  settings;
* `FileSettings.parse_eq_ok_iff`: a text is read as the settings that it spells;
* `FileSettings.parse_decides`: and all other texts give a fault.
-/

import Retarget.Proofs.Settings.Values

namespace Retarget

namespace SettingsFile

variable {text rest body : List Char} {first : Bool} {seen : List Field} {field : Field}
  {given : Given} {givens : List Given} {settings final : FileSettings}

/-! ### A member of an object -/

theorem nextKey_eq_close_iff : nextKey first text = .ok (.close rest) ↔
    ∃ space, IsSpaces space ∧ text = space ++ '\x7d' :: rest := by
  constructor
  · intro next
    obtain ⟨space, isSpaces, shape⟩ := exists_spaces text
    unfold nextKey at next
    split at next
    · cases next
    · next start =>
      cases next
      exact ⟨space, isSpaces, start ▸ shape⟩
    · split at next
      · split at next <;> cases next
      · split at next
        · split at next <;> cases next
        · cases next
  · rintro ⟨space, isSpaces, rfl⟩
    rw [nextKey, skipSpace_spaces isSpaces (by decide)]
    rfl

theorem nextKey_eq_item_iff : nextKey first text = .ok (.item body) ↔
    ∃ lead, Leads first lead ∧ text = lead ++ '"' :: body := by
  constructor
  · intro next
    obtain ⟨space, isSpaces, shape⟩ := exists_spaces text
    unfold nextKey at next
    split at next
    · cases next
    · cases next
    · next c behind _ begins =>
      rw [begins] at shape
      split at next
      · next isFirst =>
        split at next
        · next quote =>
          cases next
          exact ⟨space, isFirst ▸ .first isSpaces, quote ▸ shape⟩
        · cases next
      · next isFirst =>
        obtain rfl : first = false := by simpa using isFirst
        split at next
        · next comma =>
          obtain ⟨gap, isGap, split⟩ := exists_spaces behind
          split at next
          · cases next
          · next start =>
            cases next
            exact ⟨space ++ ',' :: gap, .other isSpaces isGap, by
              rw [shape, comma, split, start]
              simp⟩
          · cases next
          · cases next
        · cases next
  · rintro ⟨lead, leads, rfl⟩
    cases leads with
    | first isSpaces =>
      rw [nextKey, skipSpace_spaces isSpaces (by decide)]
      rfl
    | @other space gap isSpaces isGap =>
      have inner := skipSpace_spaces isGap (show isSpace '"' = false by decide) body
      rw [List.append_assoc, List.cons_append, nextKey, skipSpace_spaces isSpaces (by decide)]
      split
      · next same => cases same
      · next same => exact absurd (List.cons.inj same).1 (by decide)
      · next same =>
        cases same
        rw [if_neg (by decide), if_pos rfl, inner]
        rfl

theorem afterColon_eq_ok_iff : afterColon text = .ok rest ↔
    ∃ space, IsSpaces space ∧ text = space ++ ':' :: rest := by
  constructor
  · intro read
    obtain ⟨space, isSpaces, shape⟩ := exists_spaces text
    unfold afterColon at read
    split at read
    · next start =>
      cases read
      exact ⟨space, isSpaces, start ▸ shape⟩
    · cases read
    · cases read
  · rintro ⟨space, isSpaces, rfl⟩
    rw [afterColon, skipSpace_spaces isSpaces (by decide)]
    rfl

theorem ofKey?_eq_some_iff {key : String} : Field.ofKey? key = some field ↔ key = field.key := by
  constructor
  · intro found
    have same := List.find?_some found
    exact (beq_iff_eq.mp same).symm
  · rintro rfl
    cases field <;> rfl

/-- **A key** is taken when it is that of a field, and the field is not seen yet. -/
theorem freshField_eq_ok_iff {key : String} :
    freshField seen key = .ok field ↔ key = field.key ∧ field ∉ seen := by
  rw [← ofKey?_eq_some_iff]
  constructor
  · intro fresh
    unfold freshField at fresh
    split at fresh
    · cases fresh
    · next found =>
      split at fresh
      · cases fresh
      · next absent =>
        cases fresh
        exact ⟨found, absent⟩
  · rintro ⟨found, absent⟩
    simp [freshField, found, absent]

/-- What is read as a key, a colon and a value is a member. -/
theorem exists_of_member {key behind : List Char}
    (quoted : stringBody [] 0 body = .ok (key, behind))
    (fresh : freshField seen (String.ofList key) = .ok field)
    (value : (afterColon behind).bind (fieldValue field) = .ok (given, rest)) :
    given.field = field ∧ field ∉ seen ∧
      ∃ written, '"' :: body = written ++ rest ∧ WritesMember written given := by
  obtain ⟨name, shape, writesKey⟩ := stringBody_eq_ok_iff.mp quoted
  obtain ⟨same, absent⟩ := freshField_eq_ok_iff.mp fresh
  obtain ⟨after, colon, read⟩ := exists_of_bind_eq_ok value
  obtain ⟨space, isSpaces, rfl⟩ := afterColon_eq_ok_iff.mp colon
  obtain ⟨rfl, gap, written, isGap, writes, rfl⟩ := exists_of_fieldValue read
  rw [same] at writesKey
  exact ⟨rfl, absent, _, by rw [shape]; simp, .keyed writesKey isSpaces isGap writes⟩

/-! ### Objects -/

theorem members_close (seen : List Field) (settings : FileSettings)
    (next : nextKey first text = .ok (.close rest)) :
    members first seen settings text = .ok (settings, rest) := by
  rw [members]
  simp [next]

theorem members_item {key behind : List Char} (settings : FileSettings)
    (next : nextKey first text = .ok (.item body))
    (quoted : stringBody [] 0 body = .ok (key, behind))
    (fresh : freshField seen (String.ofList key) = .ok field)
    (value : (afterColon behind).bind (fieldValue field) = .ok (given, rest)) :
    members first seen settings text =
      members false (field :: seen) (given.putInto settings) rest := by
  rw [members]
  simp only [next, quoted]
  split
  · simp_all
  · next other =>
    obtain rfl : field = _ := by simpa [fresh] using other
    rw [value]

/-- A member that is written in front is read, and its value put into the settings. -/
theorem members_member {lead written : List Char} (leads : Leads first lead)
    (writes : WritesMember written given) (absent : given.field ∉ seen)
    (past : IsPastNumber rest) (settings : FileSettings) :
    members first seen settings (lead ++ (written ++ rest)) =
      members false (given.field :: seen) (given.putInto settings) rest := by
  obtain @⟨key, space, gap, written, _, writesKey, isSpaces, isGap, value⟩ := writes
  obtain ⟨inside, rfl⟩ := writesKey.exists_cons
  let behind := space ++ ':' :: (gap ++ (written ++ rest))
  have shape : lead ++ ('"' :: inside ++ (space ++ ':' :: (gap ++ written)) ++ rest) =
      lead ++ '"' :: (inside ++ behind) := by simp [behind]
  have quoted : stringBody [] 0 (inside ++ behind) = .ok (given.field.key.toList, behind) :=
    stringBody_eq_ok_iff.mpr ⟨_, rfl, by rwa [String.ofList_toList]⟩
  have fresh : freshField seen (String.ofList given.field.key.toList) = .ok given.field :=
    freshField_eq_ok_iff.mpr ⟨String.ofList_toList, absent⟩
  have read : (afterColon behind).bind (fieldValue given.field) = .ok (given, rest) := by
    rw [afterColon_eq_ok_iff.mpr ⟨space, isSpaces, rfl⟩]
    exact value.fieldValue_append isGap past
  rw [shape]
  exact members_item settings (nextKey_eq_item_iff.mpr ⟨lead, leads, rfl⟩) quoted fresh read

/-- **Members that are read** stand in the text. Their fields are all different, and none is one of
those seen before. -/
theorem exists_of_members (read : members first seen settings text = .ok (final, rest)) :
    ∃ inside givens, text = inside ++ '\x7d' :: rest ∧ Items WritesMember first inside givens ∧
      (givens.map Given.field).Nodup ∧ (∀ given ∈ givens, given.field ∉ seen) ∧
        final = givens.foldl Given.putInto settings := by
  fun_induction members first seen settings text with
  | case1 => cases read
  | case2 first seen settings text behind next =>
    cases read
    obtain ⟨space, isSpaces, rfl⟩ := nextKey_eq_close_iff.mp next
    exact ⟨space, [], rfl, .nil isSpaces, .nil, nofun, rfl⟩
  | case3 => cases read
  | case4 => cases read
  | case5 => cases read
  | case6 first seen settings text body next key behind quoted field fresh given after value ih =>
    obtain ⟨lead, leads, rfl⟩ := nextKey_eq_item_iff.mp next
    obtain ⟨rfl, absent, written, shape, writes⟩ := exists_of_member quoted fresh value
    obtain ⟨inside, givens, rfl, items, nodup, apart, rfl⟩ := ih read
    refine ⟨_, given :: givens, by rw [shape]; simp, .cons leads writes items, ?_, ?_, rfl⟩
    · -- Behind this member its field is seen, so no other member has it.
      refine List.nodup_cons.mpr ⟨fun again => ?_, nodup⟩
      obtain ⟨other, inside, same⟩ := List.mem_map.mp again
      exact apart other inside (same ▸ List.mem_cons_self)
    · exact List.forall_mem_cons.mpr ⟨absent, fun other inside seen =>
        apart other inside (List.mem_cons_of_mem _ seen)⟩

/-- **Members that stand in the text** are read, when their fields are different and not seen. -/
theorem members_append {inside : List Char} (items : Items WritesMember first inside givens)
    (nodup : (givens.map Given.field).Nodup) (apart : ∀ given ∈ givens, given.field ∉ seen)
    (settings : FileSettings) (rest : List Char) :
    members first seen settings (inside ++ '\x7d' :: rest) =
      .ok (givens.foldl Given.putInto settings, rest) := by
  induction items generalizing seen settings with
  | nil isSpaces => exact members_close seen settings (nextKey_eq_close_iff.mpr ⟨_, isSpaces, rfl⟩)
  | @cons first lead written text given givens leads writes items ih =>
    obtain ⟨fresh, nodup⟩ := List.nodup_cons.mp nodup
    obtain ⟨absent, apart⟩ := List.forall_mem_cons.mp apart
    have past : IsPastNumber (text ++ '\x7d' :: rest) :=
      items.isPastNumber (isPastNumber_cons (by decide) rest)
    rw [List.append_assoc, List.append_assoc, members_member leads writes absent past]
    refine ih nodup (fun other inside seen => ?_) _
    rcases List.mem_cons.mp seen with same | seen
    · exact fresh (List.mem_map.mpr ⟨other, inside, same⟩)
    · exact apart other inside seen

/-! ### Arrays -/

theorem nextValue_eq_ok_iff {start : List Char} : nextValue first text = .ok start ↔
    StartsItem start ∧ ∃ lead, Leads first lead ∧ text = lead ++ start := by
  rw [← nextItem_eq_item_iff]
  constructor
  · intro read
    unfold nextValue at read
    split at read
    · cases read
    · cases read
    · next next =>
      cases read
      exact next
  · intro next
    rw [nextValue, next]

theorem listEnd_eq_ok_iff : listEnd text = .ok rest ↔
    ∃ space, IsSpaces space ∧ text = space ++ ']' :: rest := by
  constructor
  · intro read
    obtain ⟨space, isSpaces, shape⟩ := exists_spaces text
    unfold listEnd at read
    split at read
    · cases read
    · next start =>
      cases read
      exact ⟨space, isSpaces, start ▸ shape⟩
    · split at read <;> cases read
    · cases read
  · rintro ⟨space, isSpaces, rfl⟩
    rw [listEnd, skipSpace_spaces isSpaces (by decide)]
    rfl

theorem nextValue_append {lead written : List Char} (leads : Leads first lead)
    (writes : WritesValue written given) (rest : List Char) :
    nextValue first (lead ++ (written ++ rest)) = .ok (written ++ rest) :=
  nextValue_eq_ok_iff.mpr ⟨writes.startsItem rest, lead, leads, rfl⟩

/-- A value behind what leads to it is led to by all in front of it. -/
theorem exists_of_nextValue {start : List Char} (given : Given)
    (next : nextValue first text = .ok start)
    (value : ∃ space written, IsSpaces space ∧ WritesValue written given ∧
      start = space ++ (written ++ rest)) :
    ∃ lead written, Leads first lead ∧ WritesValue written given ∧
      text = lead ++ (written ++ rest) := by
  obtain ⟨-, lead, leads, rfl⟩ := nextValue_eq_ok_iff.mp next
  obtain ⟨space, written, isSpaces, writes, rfl⟩ := value
  exact ⟨lead ++ space, written, leads.append_spaces isSpaces, writes, by simp⟩

/-- **Four values that are read** are the items of a list, in the order of the fields. -/
theorem exists_of_fourValues (read : fourValues text = .ok (final, rest)) :
    ∃ inside givens, text = inside ++ ']' :: rest ∧ Items WritesValue true inside givens ∧
      givens.map Given.field = Field.all ∧ final = givens.foldl Given.putInto {} := by
  obtain ⟨_, next₁, read⟩ := exists_of_bind_eq_ok read
  obtain ⟨⟨tokens, _⟩, value₁, read⟩ := exists_of_bind_eq_ok read
  obtain ⟨_, next₂, read⟩ := exists_of_bind_eq_ok read
  obtain ⟨⟨keepOriginals, _⟩, value₂, read⟩ := exists_of_bind_eq_ok read
  obtain ⟨_, next₃, read⟩ := exists_of_bind_eq_ok read
  obtain ⟨⟨strict, _⟩, value₃, read⟩ := exists_of_bind_eq_ok read
  obtain ⟨_, next₄, read⟩ := exists_of_bind_eq_ok read
  obtain ⟨⟨limit, _⟩, value₄, read⟩ := exists_of_bind_eq_ok read
  obtain ⟨_, ends, read⟩ := exists_of_bind_eq_ok read
  cases read
  obtain ⟨space, isSpaces, rfl⟩ := listEnd_eq_ok_iff.mp ends
  obtain ⟨gap, written, isGap, writes, -, shape⟩ := countValue_eq_ok_iff.mp value₄
  obtain ⟨_, _, leads₄, writes₄, rfl⟩ :=
    exists_of_nextValue (.maxConcurrency limit) next₄ ⟨gap, written, isGap, writes, shape⟩
  obtain ⟨_, _, leads₃, writes₃, rfl⟩ :=
    exists_of_nextValue (.strict strict) next₃ (booleanValue_eq_ok_iff.mp value₃)
  obtain ⟨_, _, leads₂, writes₂, rfl⟩ :=
    exists_of_nextValue (.keepOriginals keepOriginals) next₂ (booleanValue_eq_ok_iff.mp value₂)
  obtain ⟨_, _, leads₁, writes₁, rfl⟩ :=
    exists_of_nextValue (.ignore tokens) next₁ (tokenList_eq_ok_iff.mp value₁)
  have items := Items.cons leads₁ writes₁ <| .cons leads₂ writes₂ <| .cons leads₃ writes₃ <|
    .cons leads₄ writes₄ <| .nil isSpaces
  exact ⟨_, _, by simp, items, rfl, rfl⟩

/-- Values of all fields in order. -/
theorem exists_of_map_field (inOrder : givens.map Given.field = Field.all) :
    ∃ tokens keepOriginals strict limit, givens =
      [.ignore tokens, .keepOriginals keepOriginals, .strict strict, .maxConcurrency limit] := by
  unfold Field.all at inOrder
  obtain ⟨first, _, rfl, field₁, inOrder⟩ := List.map_eq_cons_iff.mp inOrder
  obtain ⟨second, _, rfl, field₂, inOrder⟩ := List.map_eq_cons_iff.mp inOrder
  obtain ⟨third, _, rfl, field₃, inOrder⟩ := List.map_eq_cons_iff.mp inOrder
  obtain ⟨fourth, _, rfl, field₄, inOrder⟩ := List.map_eq_cons_iff.mp inOrder
  obtain rfl := List.map_eq_nil_iff.mp inOrder
  cases first <;> cases field₁
  cases second <;> cases field₂
  cases third <;> cases field₃
  cases fourth <;> cases field₄
  exact ⟨_, _, _, _, rfl⟩

theorem fourValues_append {inside : List Char} (items : Items WritesValue true inside givens)
    (inOrder : givens.map Given.field = Field.all) (rest : List Char) :
    fourValues (inside ++ ']' :: rest) = .ok (givens.foldl Given.putInto {}, rest) := by
  obtain ⟨tokens, keepOriginals, strict, limit, rfl⟩ := exists_of_map_field inOrder
  obtain _ | @⟨_, lead₁, written₁, _, _, _, leads₁, writes₁, items⟩ := items
  obtain _ | @⟨_, lead₂, written₂, _, _, _, leads₂, writes₂, items⟩ := items
  obtain _ | @⟨_, lead₃, written₃, _, _, _, leads₃, writes₃, items⟩ := items
  obtain _ | @⟨_, lead₄, written₄, space, _, _, leads₄, writes₄, items⟩ := items
  obtain ⟨isSpaces⟩ := items
  have value₁ (rest : List Char) : tokenList (written₁ ++ rest) = .ok (tokens, rest) :=
    tokenList_eq_ok_iff.mpr ⟨[], written₁, nofun, writes₁, rfl⟩
  have value₂ (rest : List Char) : booleanValue (written₂ ++ rest) = .ok (keepOriginals, rest) :=
    booleanValue_eq_ok_iff.mpr ⟨[], written₂, nofun, writes₂, rfl⟩
  have value₃ (rest : List Char) : booleanValue (written₃ ++ rest) = .ok (strict, rest) :=
    booleanValue_eq_ok_iff.mpr ⟨[], written₃, nofun, writes₃, rfl⟩
  have past : IsPastNumber (space ++ ']' :: rest) :=
    isPastNumber_spaces isSpaces (isPastNumber_cons (by decide) rest)
  have value₄ : countValue (written₄ ++ (space ++ ']' :: rest)) =
      .ok (limit, space ++ ']' :: rest) :=
    countValue_eq_ok_iff.mpr ⟨[], written₄, nofun, writes₄, fun _ => past, rfl⟩
  have ends : listEnd (space ++ ']' :: rest) = .ok rest :=
    listEnd_eq_ok_iff.mpr ⟨space, isSpaces, rfl⟩
  simp only [fourValues, List.append_assoc, nextValue_append leads₁ writes₁,
    nextValue_append leads₂ writes₂, nextValue_append leads₃ writes₃,
    nextValue_append leads₄ writes₄, bind, Except.bind, value₁, value₂, value₃, value₄, ends]
  rfl

/-! ### What is put in -/

@[simp]
theorem has_putInto (given : Given) (settings : FileSettings) :
    has (given.putInto settings) given.field = given := by
  cases given <;> rfl

theorem has_putInto_of_ne (settings : FileSettings) (other : field ≠ given.field) :
    has (given.putInto settings) field = has settings field := by
  cases given <;> cases field <;> first | rfl | exact absurd rfl other

theorem has_foldl_of_notMem (absent : field ∉ givens.map Given.field) (settings : FileSettings) :
    has (givens.foldl Given.putInto settings) field = has settings field := by
  induction givens generalizing settings with
  | nil => rfl
  | cons given givens ih =>
    rw [List.map_cons, List.mem_cons, not_or] at absent
    rw [List.foldl_cons, ih absent.2, has_putInto_of_ne settings absent.1]

theorem has_foldl_of_mem (nodup : (givens.map Given.field).Nodup) (inside : given ∈ givens)
    (settings : FileSettings) :
    has (givens.foldl Given.putInto settings) given.field = given := by
  induction givens generalizing settings with
  | nil => cases inside
  | cons other givens ih =>
    obtain ⟨fresh, nodup⟩ := List.nodup_cons.mp nodup
    rw [List.foldl_cons]
    rcases List.mem_cons.mp inside with rfl | inside
    · rw [has_foldl_of_notMem fresh, has_putInto]
    · exact ih nodup inside _

/-- **Values of different fields** are all there when they are put in, and nothing else is. -/
theorem sets_foldl (nodup : (givens.map Given.field).Nodup) :
    Sets givens (givens.foldl Given.putInto {}) where
  given _ inside := has_foldl_of_mem nodup inside {}
  absent field absent := by
    rw [has_foldl_of_notMem absent]
    cases field <;> rfl

theorem eq_of_has (same : ∀ field, has settings field = has final field) : settings = final := by
  obtain ⟨tokens, keepOriginals, strict, limit⟩ := settings
  obtain ⟨tokens', keepOriginals', strict', limit'⟩ := final
  cases same .ignore
  cases same .keepOriginals
  cases same .strict
  cases same .maxConcurrency
  rfl

/-- **The settings** are determined by the values that are given. -/
theorem Sets.unique (sets : Sets givens settings) (sets' : Sets givens final) :
    settings = final := by
  refine eq_of_has fun field => ?_
  by_cases inside : field ∈ givens.map Given.field
  · obtain ⟨given, member, rfl⟩ := List.mem_map.mp inside
    rw [sets.given given member, sets'.given given member]
  · rw [sets.absent field inside, sets'.absent field inside]

end SettingsFile

/-! ### The whole file -/

namespace FileSettings

open SettingsFile

variable {text : List Char} {settings : FileSettings}

theorem exists_of_parse (read : parse text = .ok settings) :
    ∃ rest, settingsValue text = .ok (settings, rest) ∧ IsSpaces rest := by
  unfold parse at read
  split at read
  · cases read
  · next found rest value =>
    split at read
    · next blank =>
      cases read
      obtain ⟨space, isSpaces, shape⟩ := exists_spaces rest
      rw [blank, List.append_nil] at shape
      exact ⟨rest, value, shape ▸ isSpaces⟩
    · cases read

theorem parse_of_settingsValue {rest : List Char}
    (value : settingsValue text = .ok (settings, rest))
    (isSpaces : IsSpaces rest) : parse text = .ok settings := by
  have blank : skipSpace rest = [] := by
    have skipped := skipSpace_append isSpaces []
    rwa [List.append_nil] at skipped
  rw [parse, value]
  dsimp only
  rw [blank]

/-- **A text is read** as the settings that it spells. -/
theorem parse_eq_ok_iff : parse text = .ok settings ↔ Spells text settings := by
  constructor
  · intro read
    obtain ⟨gap, value, isGap⟩ := exists_of_parse read
    obtain ⟨space, isSpaces, shape⟩ := exists_spaces text
    unfold settingsValue at value
    split at value
    · next start =>
      obtain ⟨inside, givens, rfl, items, nodup, -, rfl⟩ := exists_of_members value
      rw [shape, start]
      exact .object isSpaces items nodup (sets_foldl nodup) isGap
    · next start =>
      obtain ⟨inside, givens, rfl, items, inOrder, rfl⟩ := exists_of_fourValues value
      have nodup : (givens.map Given.field).Nodup := by
        rw [inOrder]
        decide
      rw [shape, start]
      exact .array isSpaces items inOrder (sets_foldl nodup) isGap
    · cases value
  · intro spells
    cases spells with
    | @object space inside gap givens _ isSpaces items nodup sets isGap =>
      have read := members_append items nodup (fun _ _ => List.not_mem_nil) {} gap
      rw [← (sets_foldl nodup).unique sets]
      refine parse_of_settingsValue ?_ isGap
      rw [settingsValue, skipSpace_spaces isSpaces (by decide)]
      exact read
    | @array space inside gap givens _ isSpaces items inOrder sets isGap =>
      have nodup : (givens.map Given.field).Nodup := by
        rw [inOrder]
        decide
      rw [← (sets_foldl nodup).unique sets]
      refine parse_of_settingsValue ?_ isGap
      rw [settingsValue, skipSpace_spaces isSpaces (by decide)]
      exact fourValues_append items inOrder gap

/-- **The format of settings files**: a text is read as the settings that it spells, and a text that
spells none gives a fault. -/
theorem parse_decides (text : List Char) :
    (∀ settings, parse text = .ok settings ↔ Spells text settings) ∧
      ((∃ fault, parse text = .error fault) ↔ ¬ ∃ settings, Spells text settings) := by
  refine ⟨fun settings => parse_eq_ok_iff, ?_⟩
  constructor
  · rintro ⟨fault, failed⟩ ⟨settings, spells⟩
    rw [parse_eq_ok_iff.mpr spells] at failed
    cases failed
  · intro none
    cases read : parse text with
    | error fault => exact ⟨fault, rfl⟩
    | ok settings => exact absurd ⟨settings, parse_eq_ok_iff.mp read⟩ none

/-- A key is compared as it reads, however it is written. -/
example : parse "\x7b \"\\u0073trict\" : true\x7d".toList = .ok { strict := true } := by
  cbv

end FileSettings

end Retarget
