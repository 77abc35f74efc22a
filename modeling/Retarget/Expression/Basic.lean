/-
**What is in force while a regular expression is read.**

* `Mode`: what the flags have switched on at a place; `Mode.skip` and `Mode.ahead?` look past the
  white space that it makes meaningless;
* `Part`: what a branch is made of;
* `joined`: how deep parts are nested that stand side by side.
-/

import Retarget.Text.Blank

namespace Retarget.Expression

/-- What flags have switched on: characters of all scripts instead of bytes, and white space and
comments between the parts. -/
structure Mode where
  unicode : Bool := true
  spaced : Bool := false
  deriving DecidableEq, Repr

/-- The text behind white space and comments. A comment goes from `#` to the end of its line. -/
def skipSpace : (inComment : Bool) → List Char → List Char
  | _, [] => []
  | true, c :: rest => skipSpace (c != '\n') rest
  | false, c :: rest =>
    if isBlank c then skipSpace false rest
    else if c = '#' then skipSpace true rest
    else c :: rest

namespace Mode

/-- The text behind what a mode skips. -/
def skip (mode : Mode) (text : List Char) : List Char :=
  if mode.spaced then skipSpace false text else text

/-- The character to come. A look ahead enters a comment, but knows no end of it. -/
def ahead? (mode : Mode) (text : List Char) : Option Char :=
  if mode.spaced then
    match text.dropWhile isBlank with
    | '#' :: rest => (rest.dropWhile isBlank).head?
    | rest => rest.head?
  else text.head?

/-- The mode behind flags: those in front of a `-` are switched on, those behind it off. -/
def switched (mode : Mode) (flags : List Char) : Mode :=
  let on := flags.takeWhile (· != '-')
  let off := flags.dropWhile (· != '-')
  { unicode := (mode.unicode || on.contains 'u') && !off.contains 'u',
    spaced := (mode.spaced || on.contains 'x') && !off.contains 'x' }

end Mode

/-- A part of a branch: flags, which cannot be repeated, or a term. -/
inductive Part where
  | flags
  | term (depth : Nat)
  deriving DecidableEq, Repr

/-- How many levels of nesting are in a part. -/
def Part.depth : Part → Nat
  | .flags => 0
  | .term depth => depth

/-- The levels of nesting in parts that stand side by side: one more than in the deepest of them,
unless it stands alone. -/
def joined : (depths : List Nat) → Nat
  | [] => 0
  | [depth] => depth
  | depths => depths.foldl max 0 + 1

end Retarget.Expression
