/-
**Escapes in a regular expression.**

A backslash gives the character behind it another meaning: a character that would be a sign stands
for itself, and a letter for a character, for a set of characters or for a place between two. There
are no references to groups.
-/

import Retarget.Expression.Basic
import Retarget.Text.Hexadecimal

namespace Retarget.Expression

/-- What an escape stands for. -/
inductive Atom where
  | char (c : Char)
  | charSet
  | place
  deriving DecidableEq, Repr

/-- The number of so many hexadecimal digits, and the text behind them. -/
def hexNumber? (mode : Mode) : (digits value : Nat) → List Char → Option (Nat × List Char)
  | 0, value, text => some (value, text)
  | digits + 1, value, text =>
    match mode.skip text with
    | [] => none
    | c :: rest =>
      (Hexadecimal.digit? c).bind fun digit => hexNumber? mode digits (value * 16 + digit) rest

/-- The character of a code point in hexadecimal digits, with the text behind them. Two digits write
a byte where characters are not those of all scripts, and a byte must be a character. -/
def hexChar? (mode : Mode) (digits : Nat) (text : List Char) : Option (Atom × List Char) :=
  (hexNumber? mode digits 0 text).bind fun (value, rest) =>
    if value.isValidChar && (mode.unicode || digits != 2 || value < 0x80) then
      some (.char (Char.ofNat value), rest)
    else none

/-- The letters of the general categories. -/
def categories : List Char := ['C', 'L', 'M', 'N', 'P', 'S', 'Z']

/-- Reads an escape, behind its backslash. -/
def escape? (mode : Mode) : List Char → Option (Atom × List Char)
  | [] => none
  | c :: rest =>
    match c with
    | 'x' => hexChar? mode 2 rest
    | 'u' => hexChar? mode 4 rest
    | 'U' => hexChar? mode 8 rest
    | 'd' | 's' | 'w' => some (.charSet, rest)
    | 'D' | 'S' | 'W' => if mode.unicode then some (.charSet, rest) else none
    | 'p' | 'P' =>
      match mode.skip rest with
      | [] => none
      | letter :: rest =>
        if mode.unicode && categories.contains letter.toUpper then some (.charSet, rest) else none
    | 'A' | 'z' => some (.place, rest)
    | 'b' | 'B' | '<' | '>' => if mode.unicode then none else some (.place, rest)
    | 'a' => some (.char '\x07', rest)
    | 't' => some (.char '\t', rest)
    | 'n' => some (.char '\n', rest)
    | 'v' => some (.char '\x0b', rest)
    | 'f' => some (.char '\x0c', rest)
    | 'r' => some (.char '\r', rest)
    | c => if c.toNat < 0x80 && !c.isAlphanum then some (.char c, rest) else none

end Retarget.Expression
