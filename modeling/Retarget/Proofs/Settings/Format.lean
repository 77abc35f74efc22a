/-
**The format of a settings file.**

A settings file is written in a part of JSON: one object, or one array of the four values in the
order of the fields, with white space around it and around all it is made of. The format is given by
the texts that write a thing, from characters up to whole files, and says nothing about how they are
read.

* `SettingsFile.Characters` and `SettingsFile.WritesString`: the inside of a string, and a string;
* `SettingsFile.WritesCount`: `null`, or a natural number below `2 ^ 64`;
* `SettingsFile.Items`: items with commas between them;
* `SettingsFile.WritesValue` and `SettingsFile.WritesMember`: the value of a field, and with its
  key;
* `SettingsFile.Sets`: settings that have the given values, and all else unset;
* `FileSettings.Spells`: a text of the format, and the settings that it spells.
-/

import Mathlib
import Retarget.Settings.File

namespace Retarget

namespace SettingsFile

/-- Whether a text is made of white space. -/
def IsSpaces (text : List Char) : Prop := ∀ c ∈ text, isSpace c = true

/-! ### Strings -/

/-- The letters that stand for a character behind a backslash. -/
def letters : List (Char × Char) :=
  [ ('"', '"'), ('\\', '\\'), ('/', '/'), ('b', '\x08'), ('f', '\x0c'), ('n', '\n'), ('r', '\r'),
    ('t', '\t') ]

/-- Four hexadecimal digits, and the number that they write. -/
inductive WritesUnit : List Char → Nat → Prop where
  | digits {a b c d : Char} {i j k l : Nat} : Hexadecimal.digit? a = some i →
      Hexadecimal.digit? b = some j → Hexadecimal.digit? c = some k →
        Hexadecimal.digit? d = some l → WritesUnit [a, b, c, d] (((i * 16 + j) * 16 + k) * 16 + l)

/-- How a character is written in a string. A character above `U+FFFF` may be written as a leading
and a trailing surrogate; a surrogate by itself is no character and writes none. -/
inductive WritesChar : List Char → Char → Prop where
  | plain {c : Char} : c ≠ '"' → c ≠ '\\' → ' ' ≤ c → WritesChar [c] c
  | letter {letter c : Char} : (letter, c) ∈ letters → WritesChar ['\\', letter] c
  | unit {digits : List Char} {c : Char} : WritesUnit digits c.toNat →
      WritesChar ('\\' :: 'u' :: digits) c
  | pair {high low : List Char} {first last : Nat} {c : Char} : WritesUnit high first →
      isLeading first = true → WritesUnit low last → isTrailing last = true →
        c.toNat = (first - 0xD800) * 0x400 + (last - 0xDC00) + 0x10000 →
          WritesChar ('\\' :: 'u' :: (high ++ '\\' :: 'u' :: low)) c

/-- The inside of a string. -/
inductive Characters : List Char → List Char → Prop where
  | nil : Characters [] []
  | cons {written text chars : List Char} {c : Char} : WritesChar written c →
      Characters text chars → Characters (written ++ text) (c :: chars)

/-- A string in its quotes. -/
inductive WritesString : List Char → String → Prop where
  | quoted {text chars : List Char} : Characters text chars →
      WritesString ('"' :: (text ++ ['"'])) (String.ofList chars)

/-! ### Booleans and counts -/

inductive WritesBoolean : List Char → Bool → Prop where
  | true : WritesBoolean ['t', 'r', 'u', 'e'] true
  | false : WritesBoolean ['f', 'a', 'l', 's', 'e'] false

/-- `null`, or the digits of a number below `2 ^ 64` with no zero in front of others. -/
inductive WritesCount : List Char → Option Nat → Prop where
  | null : WritesCount ['n', 'u', 'l', 'l'] none
  | natural {digits : List Char} : digits ≠ [] → (∀ c ∈ digits, isDigit c = true) →
      (digits.head? = some '0' → digits = ['0']) → Nat.ofDigitChars 10 digits 0 < 2 ^ 64 →
        WritesCount digits (some (Nat.ofDigitChars 10 digits 0))

/-! ### Items with commas between them -/

/-- What stands in front of an item: white space, and within it a comma unless it is the first
item. -/
inductive Leads : (first : Bool) → List Char → Prop where
  | first {space : List Char} : IsSpaces space → Leads true space
  | other {space gap : List Char} : IsSpaces space → IsSpaces gap →
      Leads false (space ++ ',' :: gap)

/-- Items with commas between them, up to the closing bracket; without `first` they follow another
item. -/
inductive Items {α : Type} (Writes : List Char → α → Prop) :
    (first : Bool) → List Char → List α → Prop where
  | nil {first : Bool} {space : List Char} : IsSpaces space → Items Writes first space []
  | cons {first : Bool} {lead written text : List Char} {item : α} {items : List α} :
      Leads first lead → Writes written item → Items Writes false text items →
        Items Writes first (lead ++ (written ++ text)) (item :: items)

/-! ### Values and members -/

/-- A list of strings in its brackets. -/
inductive WritesTokens : List Char → List String → Prop where
  | listed {text : List Char} {tokens : List String} : Items WritesString true text tokens →
      WritesTokens ('[' :: (text ++ [']'])) tokens

/-- How the value of a field is written. -/
def WritesValue (text : List Char) : Given → Prop
  | .ignore tokens => WritesTokens text tokens
  | .keepOriginals value => WritesBoolean text value
  | .strict value => WritesBoolean text value
  | .maxConcurrency limit => WritesCount text limit

/-- How a member of an object is written: a key, a colon, and the value. -/
inductive WritesMember : List Char → Given → Prop where
  | keyed {key space gap written : List Char} {given : Given} :
      WritesString key given.field.key → IsSpaces space → IsSpaces gap →
        WritesValue written given → WritesMember (key ++ (space ++ ':' :: (gap ++ written))) given

/-! ### Settings -/

/-- What a field has when nothing is given for it. -/
def unset : Field → Given
  | .ignore => .ignore []
  | .keepOriginals => .keepOriginals false
  | .strict => .strict false
  | .maxConcurrency => .maxConcurrency none

/-- What settings have for a field. -/
def has (settings : FileSettings) : Field → Given
  | .ignore => .ignore settings.ignore
  | .keepOriginals => .keepOriginals settings.keepOriginals
  | .strict => .strict settings.strict
  | .maxConcurrency => .maxConcurrency settings.maxConcurrency

/-- Whether settings have the given values, and nothing else is set. -/
structure Sets (givens : List Given) (settings : FileSettings) : Prop where
  given : ∀ given ∈ givens, has settings given.field = given
  absent : ∀ field, field ∉ givens.map Given.field → has settings field = unset field

end SettingsFile

open SettingsFile in
/-- Whether a text is a settings file, and which settings it spells: it is an object whose keys are
fields, none of them twice, or an array of the values of all fields in their order. -/
inductive FileSettings.Spells : List Char → FileSettings → Prop where
  | object {space text gap : List Char} {givens : List Given} {settings : FileSettings} :
      IsSpaces space → Items WritesMember true text givens → (givens.map Given.field).Nodup →
        Sets givens settings → IsSpaces gap →
          FileSettings.Spells (space ++ '\x7b' :: (text ++ '\x7d' :: gap)) settings
  | array {space text gap : List Char} {givens : List Given} {settings : FileSettings} :
      IsSpaces space → Items WritesValue true text givens → givens.map Given.field = Field.all →
        Sets givens settings → IsSpaces gap →
          FileSettings.Spells (space ++ '[' :: (text ++ ']' :: gap)) settings

end Retarget
