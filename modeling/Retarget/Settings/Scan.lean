/-
**The words, strings and numbers of a settings file.**

Each reader takes the text that is left and returns what it read with the text behind it, or the
fault.

* `word`: the rest of `null`, `true` or `false`;
* `stringBody`: a string behind its opening quote; `stringBody_length`: it takes a character at
  least;
* `number`: a number behind its sign. A number with a fraction, an exponent or too many digits is
  read as a double: its digits, as far as 64 bits hold them, are scaled by one power of ten, so the
  result may differ from the nearest double in its last bit.
-/

import Retarget.Settings.Fault
import Retarget.Text.Hexadecimal

namespace Retarget.SettingsFile

abbrev Scan (α : Type) := Except Fault (α × List Char)

def isSpace (c : Char) : Bool := c == ' ' || c == '\n' || c == '\t' || c == '\r'

/-- The text behind white space. -/
def skipSpace (text : List Char) : List Char := text.dropWhile isSpace

/-- The text behind the characters of `letters`. -/
def word : (letters text : List Char) → Except Fault (List Char)
  | [], text => .ok text
  | _ :: _, [] => .error (.at .endInValue [])
  | letter :: letters, c :: rest =>
    if c = letter then word letters rest else .error (.on .expectedWord (c :: rest))

/-! ### Strings -/

/-- The number that four hexadecimal digits in front of the text write. -/
def hexUnit? : List Char → Option Nat
  | a :: b :: c :: d :: _ => do
    let a ← Hexadecimal.digit? a
    let b ← Hexadecimal.digit? b
    let c ← Hexadecimal.digit? c
    let d ← Hexadecimal.digit? d
    return ((a * 16 + b) * 16 + c) * 16 + d
  | _ => none

/-- The fault of a text that does not start with four hexadecimal digits. -/
def hexFault (text : List Char) : Fault :=
  if Utf8.size text < 4 then .at .endInString [] else ⟨.invalidEscape, Utf8.size text - 4⟩

def isLeading (unit : Nat) : Bool := 0xD800 ≤ unit && unit ≤ 0xDBFF

def isTrailing (unit : Nat) : Bool := 0xDC00 ≤ unit && unit ≤ 0xDFFF

/-- The character of an escape in hexadecimal, behind its `u`, and how many characters it takes. A
character above `U+FFFF` is written as a leading and a trailing surrogate. -/
def hexEscape (text : List Char) : Except Fault (Char × Nat) :=
  match hexUnit? text with
  | none => .error (hexFault text)
  | some first =>
    let rest := text.drop 4
    if isTrailing first then .error (.at .loneSurrogate rest)
    else if !isLeading first then .ok (Char.ofNat first, 4)
    else match rest with
      | '\\' :: 'u' :: second =>
        match hexUnit? second with
        | none => .error (hexFault second)
        | some last =>
          if isTrailing last then
            .ok (Char.ofNat ((first - 0xD800) * 0x400 + (last - 0xDC00) + 0x10000), 10)
          else .error (.at .loneSurrogate (second.drop 4))
      | ['\\'] => .error (.at .endInString [])
      | '\\' :: rest => .error (.on .unpairedSurrogate rest)
      | [] => .error (.at .endInString [])
      | rest => .error (.on .unpairedSurrogate rest)

/-- The character of an escape, behind its backslash, and how many characters it takes. -/
def escape : List Char → Except Fault (Char × Nat)
  | [] => .error (.at .endInString [])
  | c :: rest =>
    match c with
    | '"' | '\\' | '/' => .ok (c, 1)
    | 'b' => .ok ('\x08', 1)
    | 'f' => .ok ('\x0c', 1)
    | 'n' => .ok ('\n', 1)
    | 'r' => .ok ('\r', 1)
    | 't' => .ok ('\t', 1)
    | 'u' => (hexEscape rest).map fun (decoded, used) => (decoded, used + 1)
    | _ => .error (.on .invalidEscape (c :: rest))

/-- A string behind its opening quote: the characters in `done` are read, and the next `skip` ones
belong to an escape that is. -/
def stringBody (done : List Char) : (skip : Nat) → List Char → Scan (List Char)
  | _, [] => .error (.at .endInString [])
  | skip + 1, _ :: rest => stringBody done skip rest
  | 0, c :: rest =>
    if c = '"' then .ok (done.reverse, rest)
    else if c = '\\' then
      match escape rest with
      | .error fault => .error fault
      | .ok (decoded, used) => stringBody (decoded :: done) used rest
    else if c < ' ' then .error (.at .controlCharacter rest)
    else stringBody (c :: done) 0 rest

theorem stringBody_length {done decoded rest text : List Char} {skip : Nat}
    (read : stringBody done skip text = .ok (decoded, rest)) : rest.length < text.length := by
  induction text generalizing done skip with
  | nil => cases skip <;> simp [stringBody] at read
  | cons c text ih =>
    cases skip with
    | succ skip => exact Nat.lt_succ_of_lt (ih read)
    | zero =>
      rw [stringBody] at read
      split at read
      · simp only [Except.ok.injEq, Prod.mk.injEq] at read
        simp [read.2]
      · split at read
        · split at read
          · simp at read
          · exact Nat.lt_succ_of_lt (ih read)
        · split at read
          · simp at read
          · exact Nat.lt_succ_of_lt (ih read)

/-! ### Numbers -/

/-- A number as it is written: `natural` and `negative` give the magnitude. -/
inductive Number where
  | natural (value : Nat)
  | negative (value : Nat)
  | real (value : Float)

def Number.found : Number → Found
  | .natural value => .integer value
  | .negative value => .integer (-(value : Int))
  | .real value => .real value

def isDigit (c : Char) : Bool := '0' ≤ c && c ≤ '9'

def digitValue (c : Char) : Nat := c.toNat - 48

/-- Digits read onto a value: how many were taken, and how many were passed over because the value
would not fit into 64 bits. -/
structure Digits where
  value : Nat
  taken : Nat
  passed : Nat
  rest : List Char

/-- Reads the digits in front of the text. Once a digit is passed over, all others are too. -/
def digits (value taken passed : Nat) : List Char → Digits
  | [] => ⟨value, taken, passed, []⟩
  | c :: rest =>
    if isDigit c then
      let next := value * 10 + digitValue c
      if passed = 0 ∧ next < 2 ^ 64 then digits next (taken + 1) 0 rest
      else digits value taken (passed + 1) rest
    else ⟨value, taken, passed, c :: rest⟩

/-- The largest power of ten among the doubles is `10 ^ 308`. -/
def powerOfTen (exponent : Nat) : Float := Float.ofScientific 1 false exponent

/-- A number divided by a power of ten, in steps that doubles allow. -/
def divided (x : Float) (exponent : Nat) : Float :=
  if exponent ≤ 308 then x / powerOfTen exponent
  else if x == 0 then x
  else divided (x / powerOfTen 308) (exponent - 308)
termination_by exponent

/-- The double for `value * 10 ^ exponent`, unless it is too large. -/
def scaled? (value : Nat) (exponent : Int) : Option Float :=
  let x := (UInt64.ofNat value).toFloat
  if exponent < 0 then some (divided x exponent.natAbs)
  else if exponent ≤ 308 then
    let product := x * powerOfTen exponent.toNat
    if product.isInf then none else some product
  else if value = 0 then some x
  else none

/-- The exponent that digits in front of the text write, or none with the text behind the digit that
takes it above 31 bits. -/
def exponentDigits (value : Nat) : List Char → Option Nat × List Char
  | [] => (some value, [])
  | c :: rest =>
    if isDigit c then
      let next := value * 10 + digitValue c
      if next < 2 ^ 31 then exponentDigits next rest else (none, rest)
    else (some value, c :: rest)

/-- A double with its sign. -/
def signed (positive : Bool) (x : Float) : Number := .real (if positive then x else -x)

/-- `value * 10 ^ exponent`, in front of `rest`. -/
def real (positive : Bool) (value : Nat) (exponent : Int) (rest : List Char) : Scan Number :=
  match scaled? value exponent with
  | some x => .ok (signed positive x, rest)
  | none => .error (.at .numberOutOfRange rest)

/-- The sign of an exponent, and the text behind it. -/
def exponentSign : List Char → Bool × List Char
  | '+' :: rest => (true, rest)
  | '-' :: rest => (false, rest)
  | text => (true, text)

/-- A number whose digits are read, behind its `e`. -/
def exponentPart (positive : Bool) (value : Nat) (exponent : Int) (text : List Char) :
    Scan Number :=
  let (up, text) := exponentSign text
  match text with
  | [] => .error (.at .endInValue [])
  | c :: rest =>
    if isDigit c then
      match exponentDigits (digitValue c) rest with
      | (some shift, rest) =>
        real positive value (if up then exponent + shift else exponent - shift) rest
      | (none, rest) =>
        if value ≠ 0 ∧ up = true then .error (.at .numberOutOfRange rest)
        else .ok (signed positive 0, rest.dropWhile isDigit)
    else .error (.on .invalidNumber (c :: rest))

/-- A number whose whole part is read, behind its point. -/
def fractionPart (positive : Bool) (value : Nat) (exponent : Int) (text : List Char) :
    Scan Number :=
  let part := digits value 0 0 text
  let exponent := exponent - part.taken
  if part.taken = 0 ∧ part.passed = 0 then
    .error (.on (if part.rest = [] then .endInValue else .invalidNumber) part.rest)
  else match part.rest with
    | 'e' :: rest | 'E' :: rest => exponentPart positive part.value exponent rest
    | rest => real positive part.value exponent rest

/-- A number whose whole part is read: `passed` digits of it did not fit. -/
def afterWhole (positive : Bool) (value passed : Nat) (text : List Char) : Scan Number :=
  match text with
  | '.' :: rest => fractionPart positive value passed rest
  | 'e' :: rest | 'E' :: rest => exponentPart positive value passed rest
  | rest =>
    if passed ≠ 0 then real positive value passed rest
    else if positive then .ok (.natural value, rest)
    else if value = 0 ∨ 0x8000000000000000 < value then
      .ok (signed false (UInt64.ofNat value).toFloat, rest)
    else .ok (.negative value, rest)

/-- A number behind its sign. -/
def number (positive : Bool) : List Char → Scan Number
  | [] => .error (.at .endInValue [])
  | '0' :: rest =>
    if (rest.head?.map isDigit).getD false then .error (.on .invalidNumber rest)
    else afterWhole positive 0 0 rest
  | c :: rest =>
    if isDigit c then
      let whole := digits 0 0 0 (c :: rest)
      afterWhole positive whole.value whole.passed whole.rest
    else .error (.on .invalidNumber (c :: rest))

end Retarget.SettingsFile
