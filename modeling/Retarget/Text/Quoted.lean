/-
**Text in quotes, for diagnostics.**

Between double quotes a text has an escape for each double quote, backslash and common control
character, and the code point in braces for every other character that is not shown as it is.

* `Quoted.string`: a string;
* `Quoted.path`: a byte sequence, where a byte that is no text is written in hexadecimal.
-/

import Retarget.Text.Printable
import Retarget.Text.Utf8

namespace Retarget.Quoted

/-- The code point of a character in braces. -/
def codePoint (c : Char) : List Char :=
  ['\\', 'u', '\x7b'] ++ Nat.toDigits 16 c.toNat ++ ['\x7d']

/-- A character between double quotes. -/
def escape (c : Char) : List Char :=
  match c with
  | '\x00' => ['\\', '0']
  | '\t' => ['\\', 't']
  | '\n' => ['\\', 'n']
  | '\r' => ['\\', 'r']
  | '\\' => ['\\', '\\']
  | '"' => ['\\', '"']
  | c => if extendsGrapheme c || !isPrintable c then codePoint c else [c]

/-- A text between double quotes. -/
def text (chars : List Char) : List Char := '"' :: chars.flatMap escape ++ ['"']

/-- A string between double quotes. -/
def string (s : String) : String := String.ofList (text s.toList)

def hexDigit (n : Nat) : Char := if n < 10 then Char.ofNat (n + 48) else Char.ofNat (n + 55)

/-- A piece of a byte sequence between double quotes. -/
def escapePiece : Utf8.Piece → List Char
  | .char c => escape c
  | .broken bytes => bytes.flatMap fun byte =>
    ['\\', 'x', hexDigit (byte.toNat / 16), hexDigit (byte.toNat % 16)]

/-- A byte sequence between double quotes. -/
def path (bytes : Bytes) : String :=
  String.ofList ('"' :: (Utf8.pieces bytes).flatMap escapePiece ++ ['"'])

end Retarget.Quoted
