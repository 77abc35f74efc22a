/-
**What can be wrong with a settings file.**

A fault is a cause and the number of bytes that were left unread when it was found, from which
`Fault.position` gets the line and the column. Columns count bytes.
-/

import Retarget.Decimal.Layout
import Retarget.Text.Quoted

namespace Retarget

/-- The keys of a settings file. -/
inductive Field where
  | ignore
  | keepOriginals
  | strict
  | maxConcurrency
  deriving DecidableEq, Repr

namespace Field

/-- The key of a field. -/
def key : Field → String
  | .ignore => "ignore"
  | .keepOriginals => "keepOriginals"
  | .strict => "strict"
  | .maxConcurrency => "maxConcurrency"

/-- All fields, in the order in which an array lists them. -/
def all : List Field := [.ignore, .keepOriginals, .strict, .maxConcurrency]

/-- The field of a key. -/
def ofKey? (key : String) : Option Field := all.find? (·.key == key)

end Field

namespace SettingsFile

/-- What stands where something else is expected. -/
inductive Found where
  | null
  | boolean (value : Bool)
  | integer (value : Int)
  | real (value : Float)
  | string (value : String)
  | sequence
  | map

/-- What a place of the file asks for. -/
inductive Expected where
  | settings
  | sequence
  | string
  | boolean
  | count

/-- The causes of a fault. -/
inductive Cause where
  | endInValue
  | endInList
  | endInObject
  | endInString
  | expectedColon
  | expectedListCommaOrEnd
  | expectedObjectCommaOrEnd
  | expectedWord
  | expectedValue
  | invalidEscape
  | invalidNumber
  | numberOutOfRange
  | controlCharacter
  | keyNotString
  | loneSurrogate
  | unpairedSurrogate
  | trailingComma
  | trailingCharacters
  | invalidType (found : Found) (expected : Expected)
  | invalidValue (value : Int) (expected : Expected)
  | tooFewElements
  | unknownField (key : String)
  | duplicateField (field : Field)

/-- Doubles are positional from `1e-5` up to below `1e16`. -/
def realLayout : Decimal.Layout := ⟨-5, 15⟩

def Found.text : Found → String
  | .null => "null"
  | .boolean value => "boolean `" ++ (if value then "true" else "false") ++ "`"
  | .integer value => "integer `" ++ (if value < 0 then "-" else "") ++ Nat.repr value.natAbs ++ "`"
  | .real value => "floating point `" ++ realLayout.write value ++ "`"
  | .string value => "string " ++ Quoted.string value
  | .sequence => "sequence"
  | .map => "map"

def Expected.text : Expected → String
  | .settings => "struct FileConfig"
  | .sequence => "a sequence"
  | .string => "a string"
  | .boolean => "a boolean"
  | .count => "usize"

def Cause.message : Cause → String
  | .endInValue => "EOF while parsing a value"
  | .endInList => "EOF while parsing a list"
  | .endInObject => "EOF while parsing an object"
  | .endInString => "EOF while parsing a string"
  | .expectedColon => "expected `:`"
  | .expectedListCommaOrEnd => "expected `,` or `]`"
  | .expectedObjectCommaOrEnd => "expected `,` or `\x7d`"
  | .expectedWord => "expected ident"
  | .expectedValue => "expected value"
  | .invalidEscape => "invalid escape"
  | .invalidNumber => "invalid number"
  | .numberOutOfRange => "number out of range"
  | .controlCharacter => "control character (\\u0000-\\u001F) found while parsing a string"
  | .keyNotString => "key must be a string"
  | .loneSurrogate => "lone leading surrogate in hex escape"
  | .unpairedSurrogate => "unexpected end of hex escape"
  | .trailingComma => "trailing comma"
  | .trailingCharacters => "trailing characters"
  | .invalidType found expected =>
    "invalid type: " ++ found.text ++ ", expected " ++ expected.text
  | .invalidValue value expected =>
    "invalid value: " ++ (Found.integer value).text ++ ", expected " ++ expected.text
  | .tooFewElements => "invalid length 3, expected struct FileConfig with 4 elements"
  | .unknownField key =>
    "unknown field `" ++ key ++ "`, expected one of " ++
      ", ".intercalate (Field.all.map fun field => "`" ++ field.key ++ "`")
  | .duplicateField field => "duplicate field `" ++ field.key ++ "`"

/-- A cause, and how many bytes were left unread when it was found. -/
structure Fault where
  cause : Cause
  unread : Nat

/-- The fault found in front of `rest`. -/
def Fault.at (cause : Cause) (rest : List Char) : Fault := ⟨cause, Utf8.size rest⟩

/-- The fault found with the first byte of `rest`. -/
def Fault.on (cause : Cause) (rest : List Char) : Fault := ⟨cause, Utf8.size rest - 1⟩

/-- The line and the column of the place behind `read` bytes: lines count from one, columns from
zero bytes behind the last line feed. -/
def position (bytes : Bytes) (read : Nat) : Nat × Nat :=
  let before := bytes.take read
  (before.count 0x0A + 1, (before.reverse.takeWhile (· != 0x0A)).length)

/-- The message of a fault found in the file `bytes`. -/
def Fault.message (fault : Fault) (bytes : Bytes) : String :=
  let (line, column) := position bytes (bytes.length - fault.unread)
  fault.cause.message ++ " at line " ++ Nat.repr line ++ " column " ++ Nat.repr column

end SettingsFile

end Retarget
