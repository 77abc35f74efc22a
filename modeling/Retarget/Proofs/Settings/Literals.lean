/-
**Reading the literals of a settings file.**

A string and a word end where they end, whatever follows. Reading one of them succeeds exactly when
it stands in front of the text, and leaves the text behind it. A number goes on as far as it can, so
a count is read when nothing that belongs to a number follows it; with a fraction, an exponent or
too many digits it is read as a double, which is no count.

* `SettingsFile.escape_eq_ok_iff`: the escape of a character, behind its backslash;
* `SettingsFile.stringBody_eq_ok_iff` and `SettingsFile.stringValue_eq_ok_iff`: a string;
* `SettingsFile.booleanValue_eq_ok_iff`: a boolean behind white space;
* `SettingsFile.number_eq_natural_iff` and `SettingsFile.countValue_eq_ok_iff`: a natural number,
  and a count behind white space.
-/

import Retarget.Proofs.Arguments.Reading
import Retarget.Proofs.Settings.Format

namespace Retarget.SettingsFile

variable {text rest written space : List Char} {c : Char}

/-! ### White space -/

/-- **White space** stands in front of what is left without it. -/
theorem exists_spaces (text : List Char) :
    ∃ space, IsSpaces space ∧ text = space ++ skipSpace text := by
  refine ⟨text.takeWhile isSpace, fun c inside => ?_, List.takeWhile_append_dropWhile.symm⟩
  exact List.all_eq_true.mp List.all_takeWhile c inside

theorem skipSpace_append (isSpaces : IsSpaces space) (text : List Char) :
    skipSpace (space ++ text) = skipSpace text :=
  List.dropWhile_append_of_pos isSpaces

theorem skipSpace_cons (shown : isSpace c = false) (rest : List Char) :
    skipSpace (c :: rest) = c :: rest :=
  List.dropWhile_cons_of_neg (by simp [shown])

theorem skipSpace_spaces (isSpaces : IsSpaces space) (shown : isSpace c = false)
    (rest : List Char) : skipSpace (space ++ c :: rest) = c :: rest := by
  rw [skipSpace_append isSpaces, skipSpace_cons shown]

/-! ### Words -/

theorem word_eq_ok_iff {letters : List Char} :
    word letters text = .ok rest ↔ text = letters ++ rest := by
  induction letters generalizing text with
  | nil => simp [word]
  | cons letter letters ih =>
    cases text with
    | nil => simp [word]
    | cons c text =>
      rw [word]
      split
      · next same => simp [same, ih]
      · next differs => simp [differs]

/-! ### Escapes -/

theorem hexUnit?_eq_some_iff {unit : Nat} : hexUnit? text = some unit ↔
    ∃ digits rest, text = digits ++ rest ∧ WritesUnit digits unit := by
  constructor
  · intro read
    unfold hexUnit? at read
    split at read
    · next a b c d rest =>
      simp only [Option.bind_eq_bind, Option.bind_eq_some_iff] at read
      obtain ⟨i, first, j, second, k, third, l, fourth, value⟩ := read
      cases value
      exact ⟨[a, b, c, d], rest, rfl, .digits first second third fourth⟩
    · cases read
  · rintro ⟨_, rest, rfl, ⟨first, second, third, fourth⟩⟩
    simp [hexUnit?, first, second, third, fourth]

theorem length_of_writesUnit {digits : List Char} {unit : Nat} (writes : WritesUnit digits unit) :
    digits.length = 4 := by
  cases writes
  rfl

theorem digit?_lt {value : Nat} (digit : Hexadecimal.digit? c = some value) : value < 16 := by
  unfold Hexadecimal.digit? at digit
  split at digit
  · next range =>
    have high : c.toNat ≤ 57 := UInt32.le_iff_toNat_le.mp range.2
    cases digit
    omega
  · split at digit
    · next range =>
      have high : c.toNat ≤ 102 := UInt32.le_iff_toNat_le.mp range.2
      cases digit
      omega
    · split at digit
      · next range =>
        have high : c.toNat ≤ 70 := UInt32.le_iff_toNat_le.mp range.2
        cases digit
        omega
      · cases digit

theorem WritesUnit.lt {digits : List Char} {unit : Nat} (writes : WritesUnit digits unit) :
    unit < 0x10000 := by
  obtain ⟨first, second, third, fourth⟩ := writes
  have := digit?_lt first
  have := digit?_lt second
  have := digit?_lt third
  have := digit?_lt fourth
  omega

theorem WritesUnit.hexUnit?_append {digits : List Char} {unit : Nat}
    (writes : WritesUnit digits unit) (rest : List Char) : hexUnit? (digits ++ rest) = some unit :=
  hexUnit?_eq_some_iff.mpr ⟨digits, rest, rfl, writes⟩

/-- A number that is no surrogate is the code of a character. -/
theorem toNat_ofNat {code : Nat} (small : code < 0x110000) (leading : isLeading code = false)
    (trailing : isTrailing code = false) : (Char.ofNat code).toNat = code := by
  simp only [isLeading, isTrailing, Bool.and_eq_false_iff, decide_eq_false_iff_not] at *
  have valid : code.isValidChar := by
    unfold Nat.isValidChar
    omega
  rw [Char.ofNat, dif_pos valid]
  simp [Char.ofNatAux, Char.toNat]

/-- Two surrogates make up the code of a character. -/
theorem toNat_ofNat_pair {first last : Nat} (leads : isLeading first = true)
    (trails : isTrailing last = true) :
    (Char.ofNat ((first - 0xD800) * 0x400 + (last - 0xDC00) + 0x10000)).toNat =
      (first - 0xD800) * 0x400 + (last - 0xDC00) + 0x10000 := by
  simp only [isLeading, isTrailing, Bool.and_eq_true, decide_eq_true_eq] at leads trails
  refine toNat_ofNat (by omega) ?_ ?_
  · simp only [isLeading, Bool.and_eq_false_iff, decide_eq_false_iff_not]
    omega
  · simp only [isTrailing, Bool.and_eq_false_iff, decide_eq_false_iff_not]
    omega

/-- The code of a character is no surrogate. -/
theorem not_surrogate (c : Char) : isLeading c.toNat = false ∧ isTrailing c.toNat = false := by
  have valid : c.toNat.isValidChar := c.valid
  unfold Nat.isValidChar at valid
  simp only [isLeading, isTrailing, Bool.and_eq_false_iff, decide_eq_false_iff_not]
  omega

theorem hexEscape_eq_ok_iff {used : Nat} : hexEscape text = .ok (c, used) ↔
    ∃ written rest, text = written ++ rest ∧ written.length = used ∧
      WritesChar ('\\' :: 'u' :: written) c := by
  constructor
  · intro read
    unfold hexEscape at read
    split at read
    · cases read
    · next first hex =>
      obtain ⟨digits, rest, rfl, writes⟩ := hexUnit?_eq_some_iff.mp hex
      have four := length_of_writesUnit writes
      rw [← four, List.drop_left] at read
      dsimp only at read
      split at read
      · cases read
      · next trailing =>
        split at read
        · next leading =>
          cases read
          refine ⟨digits, rest, rfl, rfl, .unit ?_⟩
          rwa [toNat_ofNat (writes.lt.trans (by decide)) (by simpa using leading)
            (by simpa using trailing)]
        · next leading =>
          split at read
          · next second =>
            split at read
            · cases read
            · next last hex' =>
              split at read
              · next trails =>
                obtain ⟨low, rest, rfl, writes'⟩ := hexUnit?_eq_some_iff.mp hex'
                have leads : isLeading first = true := by simpa using leading
                have code := toNat_ofNat_pair leads trails
                obtain ⟨same, rfl⟩ := Prod.mk.inj (Except.ok.inj read)
                rw [same] at code
                refine ⟨digits ++ '\\' :: 'u' :: low, rest, by simp, ?_, ?_⟩
                · simp [four, length_of_writesUnit writes']
                · exact .pair writes leads writes' trails code
              · cases read
          all_goals cases read
  · rintro ⟨written, rest, rfl, rfl, writes⟩
    generalize whole : '\\' :: 'u' :: written = escaped at writes
    cases writes with
    | plain => cases whole
    | letter listed =>
      cases whole
      simp [letters] at listed
    | unit writes =>
      cases whole
      obtain ⟨leading, trailing⟩ := not_surrogate c
      rw [hexEscape, writes.hexUnit?_append, length_of_writesUnit writes]
      simp [leading, trailing]
    | @pair high low first last c writes leads writes' trails code =>
      cases whole
      have other : isTrailing first = false := by
        simp only [isLeading, isTrailing, Bool.and_eq_true, Bool.and_eq_false_iff,
          decide_eq_true_eq, decide_eq_false_iff_not] at leads ⊢
        omega
      have four := length_of_writesUnit writes
      have four' := length_of_writesUnit writes'
      have behind : (high ++ '\\' :: 'u' :: low ++ rest).drop 4 =
          '\\' :: 'u' :: (low ++ rest) := by
        rw [← four, List.append_assoc, List.drop_left]
        rfl
      have ahead : hexUnit? (high ++ '\\' :: 'u' :: low ++ rest) = some first := by
        rw [List.append_assoc, writes.hexUnit?_append]
      rw [hexEscape, ahead]
      dsimp only
      rw [behind, other, leads]
      simp [writes'.hexUnit?_append, trails, four, four', ← code]

/-- **An escape** is read when it stands in front, and as many characters are used as write it. -/
theorem escape_eq_ok_iff {used : Nat} : escape text = .ok (c, used) ↔
    ∃ written rest, text = written ++ rest ∧ written.length = used ∧
      WritesChar ('\\' :: written) c := by
  constructor
  · intro read
    unfold escape at read
    split at read
    · cases read
    · next d rest =>
      split at read
      case h_9 =>
        obtain ⟨⟨decoded, more⟩, inner, same⟩ := exists_of_map_eq_ok read
        obtain ⟨rfl, rfl⟩ := Prod.mk.inj same
        obtain ⟨written, rest, rfl, rfl, writes⟩ := hexEscape_eq_ok_iff.mp inner
        exact ⟨'u' :: written, rest, rfl, rfl, writes⟩
      case h_10 => cases read
      all_goals
        cases read
        exact ⟨[_], rest, rfl, rfl, .letter (by decide)⟩
  · rintro ⟨written, rest, rfl, rfl, writes⟩
    generalize whole : '\\' :: written = escaped at writes
    cases writes with
    | plain _ other => exact absurd (List.cons.inj whole).1.symm other
    | letter listed =>
      cases whole
      simp only [letters, List.mem_cons, Prod.mk.injEq, List.not_mem_nil, or_false] at listed
      rcases listed with ⟨rfl, rfl⟩ | ⟨rfl, rfl⟩ | ⟨rfl, rfl⟩ | ⟨rfl, rfl⟩ | ⟨rfl, rfl⟩ |
        ⟨rfl, rfl⟩ | ⟨rfl, rfl⟩ | ⟨rfl, rfl⟩ <;> rfl
    | @unit digits c writes =>
      cases whole
      have inner : hexEscape (digits ++ rest) = .ok (c, digits.length) :=
        hexEscape_eq_ok_iff.mpr ⟨digits, rest, rfl, rfl, .unit writes⟩
      show (hexEscape (digits ++ rest)).map _ = _
      rw [inner]
      rfl
    | @pair high low first last c writes leads writes' trails code =>
      cases whole
      have inner : hexEscape ((high ++ '\\' :: 'u' :: low) ++ rest) =
          .ok (c, (high ++ '\\' :: 'u' :: low).length) :=
        hexEscape_eq_ok_iff.mpr ⟨_, rest, rfl, rfl, .pair writes leads writes' trails code⟩
      show (hexEscape ((high ++ '\\' :: 'u' :: low) ++ rest)).map _ = _
      rw [inner]
      rfl

/-! ### Strings -/

/-- The characters that belong to an escape are passed over. -/
theorem stringBody_skip (done : List Char) (skip : Nat) (text : List Char) :
    stringBody done skip text = stringBody done 0 (text.drop skip) := by
  induction text generalizing skip with
  | nil =>
    rw [List.drop_nil]
    cases skip <;> rfl
  | cons c text ih =>
    cases skip with
    | zero => rfl
    | succ skip => exact ih skip

/-- **A string that is read** stands in front of its closing quote. -/
theorem exists_of_stringBody {done decoded : List Char} {skip : Nat}
    (read : stringBody done skip text = .ok (decoded, rest)) :
    ∃ inside chars, text.drop skip = inside ++ '"' :: rest ∧ Characters inside chars ∧
      decoded = done.reverse ++ chars := by
  induction text generalizing done skip with
  | nil => cases skip <;> cases read
  | cons c text ih =>
    cases skip with
    | succ skip => exact ih read
    | zero =>
      rw [stringBody] at read
      split at read
      · next quote =>
        obtain ⟨rfl, rfl⟩ := Prod.mk.inj (Except.ok.inj read)
        exact ⟨[], [], by simp [quote], .nil, by simp⟩
      · next unquoted =>
        split at read
        · next backslash =>
          split at read
          · cases read
          · next used escaped =>
            obtain ⟨written, behind, rfl, rfl, writes⟩ := escape_eq_ok_iff.mp escaped
            obtain ⟨inside, chars, split, characters, rfl⟩ := ih read
            rw [List.drop_left] at split
            exact ⟨_, _, by simp [backslash, split], .cons writes characters, by simp⟩
        · next plain =>
          split at read
          · cases read
          · next shown =>
            obtain ⟨inside, chars, split, characters, rfl⟩ := ih read
            rw [List.drop_zero] at split
            exact ⟨_, _, by simp [split],
              .cons (.plain unquoted plain (Char.not_lt.mp shown)) characters, by simp⟩

theorem stringBody_append {inside chars : List Char} (characters : Characters inside chars)
    (done rest : List Char) :
    stringBody done 0 (inside ++ '"' :: rest) = .ok (done.reverse ++ chars, rest) := by
  induction characters generalizing done with
  | nil => simp [stringBody]
  | @cons written text chars c writes _ ih =>
    -- All three kinds of escape are read by one call, which says how many characters to pass over.
    have escaped {behind : List Char} (shape : written = '\\' :: behind) :
        stringBody done 0 (written ++ (text ++ '"' :: rest)) =
          stringBody (c :: done) 0 (text ++ '"' :: rest) := by
      subst shape
      have read : escape (behind ++ (text ++ '"' :: rest)) = .ok (c, behind.length) :=
        escape_eq_ok_iff.mpr ⟨behind, _, rfl, rfl, writes⟩
      rw [List.cons_append, stringBody, if_neg (by decide), if_pos rfl, read]
      dsimp only
      rw [stringBody_skip, List.drop_left]
    have step : stringBody done 0 (written ++ (text ++ '"' :: rest)) =
        stringBody (c :: done) 0 (text ++ '"' :: rest) := by
      cases writes with
      | plain unquoted plain shown =>
        rw [List.singleton_append, stringBody, if_neg unquoted, if_neg plain,
          if_neg (Char.not_lt.mpr shown)]
      | letter | unit | pair => exact escaped rfl
    rw [List.append_assoc, step, ih]
    simp

theorem stringBody_eq_ok_iff {decoded : List Char} : stringBody [] 0 text = .ok (decoded, rest) ↔
    ∃ written, '"' :: text = written ++ rest ∧ WritesString written (String.ofList decoded) := by
  constructor
  · intro read
    obtain ⟨inside, chars, rfl, characters, rfl⟩ := exists_of_stringBody read
    exact ⟨_, by simp, .quoted characters⟩
  · rintro ⟨written, same, writes⟩
    generalize whole : String.ofList decoded = token at writes
    obtain ⟨characters⟩ := writes
    obtain rfl := String.ofList_injective whole
    rw [List.cons_append, List.append_assoc] at same
    rw [(List.cons.inj same).2]
    exact stringBody_append characters [] rest

theorem WritesString.exists_cons {token : String} (writes : WritesString written token) :
    ∃ inside, written = '"' :: inside := by
  cases writes
  exact ⟨_, rfl⟩

/-- **A string** is read when it stands in front. -/
theorem stringValue_eq_ok_iff {decoded : List Char} : stringValue text = .ok (decoded, rest) ↔
    ∃ written, text = written ++ rest ∧ WritesString written (String.ofList decoded) := by
  constructor
  · intro read
    unfold stringValue at read
    split at read
    · exact stringBody_eq_ok_iff.mp read
    · cases read
  · rintro ⟨written, rfl, writes⟩
    obtain ⟨inside, rfl⟩ := writes.exists_cons
    exact stringBody_eq_ok_iff.mpr ⟨_, rfl, writes⟩

/-! ### Booleans -/

/-- **A boolean** is read when it stands behind white space. -/
theorem booleanValue_eq_ok_iff {value : Bool} : booleanValue text = .ok (value, rest) ↔
    ∃ space written, IsSpaces space ∧ WritesBoolean written value ∧
      text = space ++ (written ++ rest) := by
  constructor
  · intro read
    obtain ⟨space, isSpaces, shape⟩ := exists_spaces text
    unfold booleanValue at read
    split at read
    · next start =>
      obtain ⟨_, letters, same⟩ := exists_of_map_eq_ok read
      cases same
      rw [start, word_eq_ok_iff.mp letters] at shape
      exact ⟨space, _, isSpaces, .true, shape⟩
    · next start =>
      obtain ⟨_, letters, same⟩ := exists_of_map_eq_ok read
      cases same
      rw [start, word_eq_ok_iff.mp letters] at shape
      exact ⟨space, _, isSpaces, .false, shape⟩
    · cases read
  · rintro ⟨space, written, isSpaces, writes, rfl⟩
    cases writes with
    | true =>
      have start := skipSpace_spaces isSpaces (show isSpace 't' = false by decide)
        ('r' :: 'u' :: 'e' :: rest)
      simp only [booleanValue, List.cons_append, List.nil_append, start]
      rfl
    | false =>
      have start := skipSpace_spaces isSpaces (show isSpace 'f' = false by decide)
        ('a' :: 'l' :: 's' :: 'e' :: rest)
      simp only [booleanValue, List.cons_append, List.nil_append, start]
      rfl

/-! ### Numbers -/

/-- Whether nothing in front of a text continues a number. -/
def IsPastNumber (text : List Char) : Prop :=
  ∀ c ∈ text.head?, isDigit c = false ∧ c ≠ '.' ∧ c ≠ 'e' ∧ c ≠ 'E'

theorem ne_of_isDigit {d : Char} (digit : isDigit c = true) (other : isDigit d = false) :
    c ≠ d := by
  rintro rfl
  rw [digit] at other
  cases other

theorem not_isSpace_of_isDigit (digit : isDigit c = true) : isSpace c = false := by
  have blank : c ≠ ' ' := ne_of_isDigit digit (by decide)
  have feed : c ≠ '\n' := ne_of_isDigit digit (by decide)
  have tab : c ≠ '\t' := ne_of_isDigit digit (by decide)
  have back : c ≠ '\r' := ne_of_isDigit digit (by decide)
  simp [isSpace, blank, feed, tab, back]

theorem ofDigitChars_cons (c : Char) (run : List Char) (value : Nat) :
    Nat.ofDigitChars 10 (c :: run) value = Nat.ofDigitChars 10 run (value * 10 + digitValue c) := by
  rw [Nat.ofDigitChars_cons, Nat.mul_comm]
  rfl

theorem le_ofDigitChars (run : List Char) (value : Nat) :
    value ≤ Nat.ofDigitChars 10 run value := by
  rw [Nat.ofDigitChars_eq_ofDigitChars_zero]
  exact (Nat.le_mul_of_pos_left _ (Nat.pow_pos (by decide))).trans (Nat.le_add_right _ _)

theorem digits_cons (value taken passed : Nat) (c : Char) (rest : List Char) :
    digits value taken passed (c :: rest) =
      if isDigit c then
        if passed = 0 ∧ value * 10 + digitValue c < 2 ^ 64 then
          digits (value * 10 + digitValue c) (taken + 1) 0 rest
        else digits value taken (passed + 1) rest
      else ⟨value, taken, passed, c :: rest⟩ :=
  rfl

theorem passed_le_digits (value taken passed : Nat) (text : List Char) :
    passed ≤ (digits value taken passed text).passed := by
  induction text generalizing value taken passed with
  | nil => exact le_rfl
  | cons c text ih =>
    rw [digits_cons]
    split
    · split
      · next fits => omega
      · exact (Nat.le_succ _).trans (ih _ _ _)
    · exact le_rfl

/-- Digits of which none is passed over write the value, and no digit follows them. -/
theorem exists_of_digits {value taken passed total count : Nat} (small : value < 2 ^ 64)
    (read : digits value taken passed text = ⟨total, count, 0, rest⟩) :
    ∃ run, text = run ++ rest ∧ (∀ c ∈ run, isDigit c = true) ∧
      total = Nat.ofDigitChars 10 run value ∧ total < 2 ^ 64 ∧
        ∀ c ∈ rest.head?, isDigit c = false := by
  induction text generalizing value taken passed with
  | nil =>
    cases read
    exact ⟨[], rfl, nofun, rfl, small, nofun⟩
  | cons c text ih =>
    rw [digits_cons] at read
    split at read
    · next digit =>
      split at read
      · next fits =>
        obtain ⟨run, rfl, digits, rfl, bound, ends⟩ := ih fits.2 read
        refine ⟨c :: run, rfl, ?_, (ofDigitChars_cons c run value).symm, bound, ends⟩
        exact List.forall_mem_cons.mpr ⟨digit, digits⟩
      · have passed := passed_le_digits value taken (passed + 1) text
        rw [read] at passed
        cases passed
    · next other =>
      cases read
      exact ⟨[], rfl, nofun, rfl, small, by simpa using other⟩

theorem digits_append {run : List Char} (digit : ∀ c ∈ run, isDigit c = true) (value taken : Nat)
    (fits : Nat.ofDigitChars 10 run value < 2 ^ 64) (ends : ∀ c ∈ rest.head?, isDigit c = false) :
    digits value taken 0 (run ++ rest) =
      ⟨Nat.ofDigitChars 10 run value, taken + run.length, 0, rest⟩ := by
  induction run generalizing value taken with
  | nil =>
    cases rest with
    | nil => rfl
    | cons c rest =>
      rw [List.nil_append, digits_cons, if_neg (by simpa using ends)]
      rfl
  | cons c run ih =>
    obtain ⟨first, others⟩ := List.forall_mem_cons.mp digit
    rw [ofDigitChars_cons] at fits ⊢
    have next := (le_ofDigitChars run _).trans_lt fits
    rw [List.cons_append, digits_cons, if_pos first, if_pos ⟨rfl, next⟩, ih others _ _ fits,
      List.length_cons, Nat.add_assoc, Nat.add_comm 1]

section NoCount

variable {positive : Bool} {value total : Nat} {exponent : Int}

theorem real_ne_natural : real positive value exponent text ≠ .ok (.natural total, rest) := by
  intro read
  unfold real at read
  split at read <;> cases read

theorem exponentPart_ne_natural :
    exponentPart positive value exponent text ≠ .ok (.natural total, rest) := by
  intro read
  unfold exponentPart at read
  dsimp only at read
  split at read
  · cases read
  · split at read
    · split at read
      · exact real_ne_natural read
      · split at read <;> cases read
    · cases read

theorem fractionPart_ne_natural :
    fractionPart positive value exponent text ≠ .ok (.natural total, rest) := by
  intro read
  unfold fractionPart at read
  dsimp only at read
  split at read
  · cases read
  · split at read
    · exact exponentPart_ne_natural read
    · exact exponentPart_ne_natural read
    · exact real_ne_natural read

end NoCount

theorem afterWhole_eq_natural_iff {positive : Bool} {value passed total : Nat} :
    afterWhole positive value passed text = .ok (.natural total, rest) ↔
      positive = true ∧ passed = 0 ∧ total = value ∧ rest = text ∧
        ∀ c ∈ text.head?, c ≠ '.' ∧ c ≠ 'e' ∧ c ≠ 'E' := by
  constructor
  · intro read
    unfold afterWhole at read
    split at read
    · exact absurd read fractionPart_ne_natural
    · exact absurd read exponentPart_ne_natural
    · exact absurd read exponentPart_ne_natural
    · next point small large =>
      split at read
      · exact absurd read real_ne_natural
      · next passed =>
        split at read
        · next positive =>
          cases read
          refine ⟨positive, by simpa using passed, rfl, rfl, ?_⟩
          intro c start
          obtain ⟨behind, rfl⟩ : ∃ behind, text = c :: behind :=
            List.head?_eq_some_iff.mp start
          refine ⟨?_, ?_, ?_⟩
          · rintro rfl
            exact point _ rfl
          · rintro rfl
            exact small _ rfl
          · rintro rfl
            exact large _ rfl
        · split at read <;> cases read
  · rintro ⟨rfl, rfl, rfl, rfl, ends⟩
    unfold afterWhole
    split
    · exact absurd rfl (ends _ rfl).1
    · exact absurd rfl (ends _ rfl).2.1
    · exact absurd rfl (ends _ rfl).2.2
    · rfl

/-- **A natural number** is read when it stands in front, has no sign, and ends there. -/
theorem number_eq_natural_iff {positive : Bool} {total : Nat} :
    number positive text = .ok (.natural total, rest) ↔
      positive = true ∧ ∃ digits, text = digits ++ rest ∧ WritesCount digits (some total) ∧
        IsPastNumber rest := by
  constructor
  · intro read
    unfold number at read
    split at read
    · cases read
    · split at read
      · cases read
      · next alone =>
        obtain ⟨positive, -, rfl, rfl, ends⟩ := afterWhole_eq_natural_iff.mp read
        have digit : ∀ c ∈ ['0'], isDigit c = true := List.forall_mem_singleton.mpr rfl
        refine ⟨positive, ['0'], rfl, .natural (by decide) digit (fun _ => rfl) (by decide),
          fun c start => ⟨?_, ends c start⟩⟩
        simpa [Option.mem_def.mp start] using alone
    · next c text zero =>
      split at read
      · next digit =>
        generalize taken : digits 0 0 0 (c :: text) = whole at read
        obtain ⟨value, count, passed, behind⟩ := whole
        obtain ⟨positive, rfl, rfl, rfl, ends⟩ := afterWhole_eq_natural_iff.mp read
        obtain ⟨run, shape, digits, rfl, bound, stops⟩ := exists_of_digits (by decide) taken
        have nonempty : run ≠ [] := by
          rintro rfl
          rw [List.nil_append] at shape
          have same := stops c (by rw [← shape]; rfl)
          rw [digit] at same
          cases same
        refine ⟨positive, run, shape, ?_, fun c start => ⟨stops c start, ends c start⟩⟩
        refine .natural nonempty digits (fun start => ?_) bound
        obtain ⟨behind, rfl⟩ := List.head?_eq_some_iff.mp start
        exact absurd (List.cons.inj shape).1 zero
      · cases read
  · rintro ⟨rfl, digits, rfl, writes, past⟩
    generalize whole : some total = limit at writes
    cases writes with
    | null => cases whole
    | natural nonempty digit alone fits =>
      cases whole
      cases digits with
      | nil => exact absurd rfl nonempty
      | cons c run =>
        by_cases zero : c = '0'
        · subst zero
          obtain rfl : run = [] := (List.cons.inj (alone rfl)).2
          have stops : (rest.head?.map isDigit).getD false = false := by
            cases start : rest.head? with
            | none => rfl
            | some c => exact (past c start).1
          rw [List.singleton_append, number, if_neg (by simp [stops])]
          exact afterWhole_eq_natural_iff.mpr ⟨rfl, rfl, rfl, rfl, fun c start => (past c start).2⟩
        · have read := digits_append digit 0 0 fits fun c start => (past c start).1
          rw [List.cons_append] at read ⊢
          rw [number.eq_3 _ _ _ (fun same => zero same), if_pos (digit c List.mem_cons_self)]
          dsimp only
          rw [read]
          exact afterWhole_eq_natural_iff.mpr ⟨rfl, rfl, rfl, rfl, fun c start => (past c start).2⟩

theorem countOf_eq_ok_iff {read : Number} {limit : Option Nat} {behind : List Char} :
    countOf read behind = .ok (limit, rest) ↔
      ∃ total, read = .natural total ∧ limit = some total ∧ rest = behind := by
  constructor
  · intro count
    cases read with
    | natural total =>
      cases count
      exact ⟨total, rfl, rfl, rfl⟩
    | negative | real => cases count
  · rintro ⟨total, rfl, rfl, rfl⟩
    rfl

/-- **A count** is read when it stands behind white space and ends there. -/
theorem countValue_eq_ok_iff {limit : Option Nat} : countValue text = .ok (limit, rest) ↔
    ∃ space written, IsSpaces space ∧ WritesCount written limit ∧
      (limit ≠ none → IsPastNumber rest) ∧ text = space ++ (written ++ rest) := by
  constructor
  · intro read
    obtain ⟨space, isSpaces, shape⟩ := exists_spaces text
    unfold countValue at read
    split at read
    · cases read
    · next c text start =>
      rw [start] at shape
      split at read
      · next null =>
        obtain ⟨_, letters, same⟩ := exists_of_map_eq_ok read
        cases same
        rw [null, word_eq_ok_iff.mp letters] at shape
        exact ⟨space, _, isSpaces, .null, fun some => absurd rfl some, shape⟩
      · split at read
        · obtain ⟨⟨found, behind⟩, number, count⟩ := exists_of_bind_eq_ok read
          obtain ⟨total, rfl, rfl, rfl⟩ := countOf_eq_ok_iff.mp count
          exact absurd (number_eq_natural_iff.mp number).1 (by decide)
        · split at read
          · obtain ⟨⟨found, behind⟩, number, count⟩ := exists_of_bind_eq_ok read
            obtain ⟨total, rfl, rfl, rfl⟩ := countOf_eq_ok_iff.mp count
            obtain ⟨-, written, split, writes, past⟩ := number_eq_natural_iff.mp number
            exact ⟨space, written, isSpaces, writes, fun _ => past, by rw [shape, split]⟩
          · cases read
  · rintro ⟨space, written, isSpaces, writes, past, rfl⟩
    have whole := writes
    cases writes with
    | null =>
      have start := skipSpace_spaces isSpaces (show isSpace 'n' = false by decide)
        ('u' :: 'l' :: 'l' :: rest)
      simp only [countValue, List.cons_append, List.nil_append, start]
      rfl
    | natural nonempty digit alone fits =>
      have read := number_eq_natural_iff.mpr ⟨rfl, written, rfl, whole, past (by simp)⟩
      cases written with
      | nil => exact absurd rfl nonempty
      | cons c run =>
        have first := digit c List.mem_cons_self
        rw [List.cons_append] at read ⊢
        rw [countValue, skipSpace_spaces isSpaces (not_isSpace_of_isDigit first)]
        dsimp only
        rw [if_neg (ne_of_isDigit first (by decide)), if_neg (ne_of_isDigit first (by decide)),
          if_pos first, read]
        rfl

end Retarget.SettingsFile
