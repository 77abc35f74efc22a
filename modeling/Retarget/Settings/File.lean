/-
**The settings file.**

The file is JSON: one object whose keys are fields, none twice, or one array of the four values in
order. `FileSettings.parse` reads it from left to right and stops at the first fault.

* `nextItem`: where the items of a list go on; `elements` and `tokenList`: the tokens to ignore;
* `fieldValue`: the value of a field; `members` and `fourValues`: the two forms of the file.
-/

import Retarget.Settings.Scan

namespace Retarget

/-- What a settings file says. -/
structure FileSettings where
  ignore : List String := []
  keepOriginals : Bool := false
  strict : Bool := false
  maxConcurrency : Option Nat := none
  deriving DecidableEq, Repr

namespace SettingsFile

/-- The value that a file gives to a field. -/
inductive Given where
  | ignore (tokens : List String)
  | keepOriginals (value : Bool)
  | strict (value : Bool)
  | maxConcurrency (limit : Option Nat)
  deriving DecidableEq, Repr

def Given.field : Given → Field
  | .ignore _ => .ignore
  | .keepOriginals _ => .keepOriginals
  | .strict _ => .strict
  | .maxConcurrency _ => .maxConcurrency

/-- The settings with a given value put in. -/
def Given.putInto (settings : FileSettings) : Given → FileSettings
  | .ignore tokens => { settings with ignore := tokens }
  | .keepOriginals value => { settings with keepOriginals := value }
  | .strict value => { settings with strict := value }
  | .maxConcurrency limit => { settings with maxConcurrency := limit }

/-! ### Single values -/

/-- What is found at the front of a text that does not hold the expected value. -/
def foundValue (text : List Char) : Scan Found :=
  match text with
  | [] => .error (.on .endInValue [])
  | c :: rest =>
    match c with
    | 'n' => (word ['u', 'l', 'l'] rest).map fun rest => (.null, rest)
    | 't' => (word ['r', 'u', 'e'] rest).map fun rest => (.boolean true, rest)
    | 'f' => (word ['a', 'l', 's', 'e'] rest).map fun rest => (.boolean false, rest)
    | '-' => (number false rest).map fun (read, rest) => (read.found, rest)
    | '"' => (stringBody [] 0 rest).map fun (read, rest) => (.string (String.ofList read), rest)
    | '[' => .ok (.sequence, text)
    | '\x7b' => .ok (.map, text)
    | _ =>
      if isDigit c then (number true text).map fun (read, rest) => (read.found, rest)
      else .error (.on .expectedValue text)

/-- The fault of a text that does not hold the expected value. -/
def mismatch (expected : Expected) (text : List Char) : Fault :=
  match foundValue text with
  | .ok (found, rest) => .at (.invalidType found expected) rest
  | .error fault => fault

/-- A string in quotes. -/
def stringValue (text : List Char) : Scan (List Char) :=
  match text with
  | '"' :: body => stringBody [] 0 body
  | text => .error (mismatch .string text)

theorem stringValue_length {text decoded rest : List Char}
    (read : stringValue text = .ok (decoded, rest)) : rest.length < text.length := by
  unfold stringValue at read
  split at read
  · exact Nat.lt_succ_of_lt (stringBody_length read)
  · simp at read

def booleanValue (text : List Char) : Scan Bool :=
  match skipSpace text with
  | 't' :: rest => (word ['r', 'u', 'e'] rest).map fun rest => (true, rest)
  | 'f' :: rest => (word ['a', 'l', 's', 'e'] rest).map fun rest => (false, rest)
  | text => .error (mismatch .boolean text)

/-- A natural number below `2 ^ 64`, in front of `rest`. -/
def countOf (read : Number) (rest : List Char) : Scan (Option Nat) :=
  match read with
  | .natural value => .ok (some value, rest)
  | .negative value => .error (.at (.invalidValue (-(value : Int)) .count) rest)
  | .real value => .error (.at (.invalidType (.real value) .count) rest)

/-- `null`, or a natural number. -/
def countValue (text : List Char) : Scan (Option Nat) :=
  match skipSpace text with
  | [] => .error (mismatch .count [])
  | c :: rest =>
    if c = 'n' then (word ['u', 'l', 'l'] rest).map fun rest => (none, rest)
    else if c = '-' then (number false rest).bind fun (read, rest) => countOf read rest
    else if isDigit c then (number true (c :: rest)).bind fun (read, rest) => countOf read rest
    else .error (mismatch .count (c :: rest))

/-! ### Lists -/

/-- Where a list goes on: it ends, or its next item starts. -/
inductive Next where
  | close (rest : List Char)
  | item (rest : List Char)

/-- How a list goes on in front of its first item, or behind an item. -/
def nextItem (first : Bool) (text : List Char) : Except Fault Next :=
  match skipSpace text with
  | [] => .error (.on .endInList [])
  | ']' :: rest => .ok (.close rest)
  | c :: rest =>
    if first then .ok (.item (c :: rest))
    else if c = ',' then
      match skipSpace rest with
      | [] => .error (.on .endInValue [])
      | ']' :: rest => .error (.on .trailingComma (']' :: rest))
      | rest => .ok (.item rest)
    else .error (.on .expectedListCommaOrEnd (c :: rest))

theorem skipSpace_length (text : List Char) : (skipSpace text).length ≤ text.length :=
  (List.dropWhile_sublist _).length_le

theorem nextItem_length {first : Bool} {text rest : List Char}
    (next : nextItem first text = .ok (.item rest)) : rest.length ≤ text.length := by
  have shorter := skipSpace_length text
  unfold nextItem at next
  split at next
  · simp at next
  · simp at next
  · next c after _ start =>
    rw [start, List.length_cons] at shorter
    split at next
    · simp only [Except.ok.injEq, Next.item.injEq] at next
      simpa [← next] using shorter
    · split at next
      · have further := skipSpace_length after
        split at next
        · simp at next
        · simp at next
        · simp only [Except.ok.injEq, Next.item.injEq] at next
          rw [← next]
          omega
      · simp at next

/-- The strings of a list up to its end; those in `done` are read. -/
def elements (first : Bool) (done : List String) (text : List Char) : Scan (List String) :=
  match _next : nextItem first text with
  | .error fault => .error fault
  | .ok (.close rest) => .ok (done.reverse, rest)
  | .ok (.item start) =>
    match _read : stringValue start with
    | .error fault => .error fault
    | .ok (token, rest) => elements false (String.ofList token :: done) rest
termination_by text.length
decreasing_by
  have := nextItem_length _next
  have := stringValue_length _read
  omega

/-- A list of strings. -/
def tokenList (text : List Char) : Scan (List String) :=
  match skipSpace text with
  | '[' :: rest => elements true [] rest
  | text => .error (mismatch .sequence text)

/-! ### The two forms of the file -/

/-- The value of a field. -/
def fieldValue (field : Field) (text : List Char) : Scan Given :=
  match field with
  | .ignore => (tokenList text).map fun (tokens, rest) => (.ignore tokens, rest)
  | .keepOriginals => (booleanValue text).map fun (value, rest) => (.keepOriginals value, rest)
  | .strict => (booleanValue text).map fun (value, rest) => (.strict value, rest)
  | .maxConcurrency => (countValue text).map fun (limit, rest) => (.maxConcurrency limit, rest)

/-- How an object goes on in front of its first key, or behind a value: a key starts behind its
quote. -/
def nextKey (first : Bool) (text : List Char) : Except Fault Next :=
  match skipSpace text with
  | [] => .error (.on .endInObject [])
  | '\x7d' :: rest => .ok (.close rest)
  | c :: rest =>
    if first then
      if c = '"' then .ok (.item rest) else .error (.on .keyNotString (c :: rest))
    else if c = ',' then
      match skipSpace rest with
      | [] => .error (.on .endInValue [])
      | '"' :: rest => .ok (.item rest)
      | '\x7d' :: rest => .error (.on .trailingComma ('\x7d' :: rest))
      | rest => .error (.on .keyNotString rest)
    else .error (.on .expectedObjectCommaOrEnd (c :: rest))

/-- The text behind the colon of a member. -/
def afterColon (text : List Char) : Except Fault (List Char) :=
  match skipSpace text with
  | ':' :: rest => .ok rest
  | [] => .error (.on .endInObject [])
  | rest => .error (.on .expectedColon rest)

/-- The fault of a key: it is reported behind the white space that follows the key, and behind the
end of the object when the object ends there. -/
def keyFault (cause : Cause) (text : List Char) : Fault :=
  match skipSpace text with
  | '\x7d' :: rest => .at cause rest
  | rest => .at cause rest

/-- The field of a key that is not among those seen. -/
def freshField (seen : List Field) (key : String) : Except Cause Field :=
  match Field.ofKey? key with
  | none => .error (.unknownField key)
  | some field => if field ∈ seen then .error (.duplicateField field) else .ok field

/-- How many fields are not seen yet. -/
def unseen (seen : List Field) : Nat := (Field.all.filter (· ∉ seen)).length

theorem unseen_cons {seen : List Field} {field : Field} {key : String}
    (fresh : freshField seen key = .ok field) : unseen (field :: seen) < unseen seen := by
  have absent : field ∉ seen := by
    unfold freshField at fresh
    split at fresh
    · simp at fresh
    · split at fresh
      · simp at fresh
      · simp only [Except.ok.injEq] at fresh
        exact fresh ▸ by assumption
  unfold unseen
  have whole : field ∈ Field.all.filter (· ∉ seen) := by
    cases field <;> simp [Field.all, absent]
  have part : Field.all.filter (· ∉ field :: seen) =
      (Field.all.filter (· ∉ seen)).filter (· ≠ field) := by
    rw [List.filter_filter]
    congr 1
    funext other
    simp [not_or]
  rw [part]
  refine Nat.lt_of_le_of_ne (List.length_filter_le _ _) fun same => ?_
  simpa using List.length_filter_eq_length_iff.mp same field whole

/-- The members of an object up to its end, put into the settings read so far. -/
def members (first : Bool) (seen : List Field) (settings : FileSettings) (text : List Char) :
    Scan FileSettings :=
  match nextKey first text with
  | .error fault => .error fault
  | .ok (.close rest) => .ok (settings, rest)
  | .ok (.item body) =>
    match stringBody [] 0 body with
    | .error fault => .error fault
    | .ok (key, rest) =>
      match _fresh : freshField seen (String.ofList key) with
      | .error cause => .error (keyFault cause rest)
      | .ok field =>
        match (afterColon rest).bind (fieldValue field) with
        | .error fault => .error fault
        | .ok (given, rest) => members false (field :: seen) (given.putInto settings) rest
termination_by unseen seen
decreasing_by exact unseen_cons _fresh

/-- Where the next of the four values of a list starts; a list that ends has too few. -/
def nextValue (first : Bool) (text : List Char) : Except Fault (List Char) :=
  match nextItem first text with
  | .error fault => .error fault
  | .ok (.close rest) => .error (.at .tooFewElements rest)
  | .ok (.item rest) => .ok rest

/-- The text behind a list whose items are read. -/
def listEnd (text : List Char) : Except Fault (List Char) :=
  match skipSpace text with
  | [] => .error (.on .endInList [])
  | ']' :: rest => .ok rest
  | ',' :: rest =>
    match skipSpace rest with
    | ']' :: rest => .error (.on .trailingComma (']' :: rest))
    | rest => .error (.on .trailingCharacters rest)
  | rest => .error (.on .trailingCharacters rest)

/-- The four values of a list, in the order of the fields. -/
def fourValues (text : List Char) : Except Fault (FileSettings × List Char) := do
  let (ignore, rest) ← tokenList (← nextValue true text)
  let (keepOriginals, rest) ← booleanValue (← nextValue false rest)
  let (strict, rest) ← booleanValue (← nextValue false rest)
  let (maxConcurrency, rest) ← countValue (← nextValue false rest)
  let rest ← listEnd rest
  return (⟨ignore, keepOriginals, strict, maxConcurrency⟩, rest)

/-- An object or a list. -/
def settingsValue (text : List Char) : Scan FileSettings :=
  match skipSpace text with
  | '\x7b' :: rest => members true [] {} rest
  | '[' :: rest => fourValues rest
  | text => .error (mismatch .settings text)

end SettingsFile

open SettingsFile in
/-- The settings that a text spells: nothing but white space follows the value. -/
def FileSettings.parse (text : List Char) : Except Fault FileSettings :=
  match settingsValue text with
  | .error fault => .error fault
  | .ok (settings, rest) =>
    match skipSpace rest with
    | [] => .ok settings
    | rest => .error (.on .trailingCharacters rest)

end Retarget
