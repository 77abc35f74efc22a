/-
**Sets of characters between brackets.**

A set holds characters, ranges, sets that have a name and other sets in brackets; `&&`, `--` and `~~`
take the sets on both sides together. Where characters are not those of all scripts a set holds
nothing above ASCII, so that none is the complement of another.

* `Bracket`: a set that is open;
* `Bracket.ofText?`: what opens one;
* `element?`: the text behind a character or a range;
* `namedSet?`: a set that has a name.
-/

import Retarget.Expression.Escape

namespace Retarget.Expression

/-- An open set: the levels of nesting in its elements since the last operation, those in what
stands before it, and whether only dashes were read. -/
structure Bracket where
  elements : List Nat := []
  left : Option Nat := none
  fresh : Bool := true
  deriving DecidableEq, Repr

namespace Bracket

/-- A set with one more element. -/
def add (bracket : Bracket) (depth : Nat) : Bracket :=
  { bracket with elements := depth :: bracket.elements, fresh := false }

/-- The levels of nesting in a set. -/
def depth (bracket : Bracket) : Nat :=
  let right := joined bracket.elements
  bracket.left.elim right fun left => joined [left, right]

/-- A set behind an operation. -/
def operated (bracket : Bracket) : Bracket := { left := some bracket.depth, fresh := false }

/-- Opens a set, behind its bracket. -/
def ofText? (mode : Mode) (text : List Char) : Option (Bracket × List Char) :=
  match mode.skip text with
  | '^' :: rest => if mode.unicode then some ({}, rest) else none
  | rest => some ({}, rest)

end Bracket

/-- The names that sets have. -/
def setNames : List String :=
  ["alnum", "alpha", "ascii", "blank", "cntrl", "digit", "graph", "lower", "print", "punct",
    "space", "upper", "word", "xdigit"]

/-- Whether a set that has a name is a complement, and the text behind it; it is read behind its
first bracket. -/
def namedSet? : List Char → Option (Bool × List Char)
  | ':' :: text =>
    let negated := text.head? == some '^'
    let body := if negated then text.drop 1 else text
    match body.dropWhile (· != ':') with
    | ':' :: ']' :: rest =>
      if setNames.contains (String.ofList (body.takeWhile (· != ':'))) then some (negated, rest)
      else none
    | _ => none
  | _ => none

/-- What a set can hold. -/
def Mode.admits (mode : Mode) : Atom → Bool
  | .char c => mode.unicode || c.toNat < 0x80
  | .charSet => true
  | .place => false

/-- Reads a character or an escape. -/
def atom? (mode : Mode) : List Char → Option (Atom × List Char)
  | [] => none
  | '\\' :: rest => escape? mode rest
  | c :: rest => some (.char c, rest)

/-- The text behind the end of a range, when that does not lie before its start. -/
def rangeEnd? (mode : Mode) (start : Atom) (text : List Char) : Option (List Char) :=
  (atom? mode (mode.skip text)).bind fun (stop, rest) =>
    match start, stop with
    | .char first, .char last =>
      if first ≤ last && mode.admits start && mode.admits stop then some rest else none
    | _, _ => none

/-- The text behind a character, an escape or a range. A dash in front of the closing bracket or of
another dash makes no range. -/
def element? (mode : Mode) (text : List Char) : Option (List Char) :=
  (atom? mode text).bind fun (atom, rest) =>
    let rest := mode.skip rest
    let alone := if mode.admits atom then some rest else none
    match rest with
    | '-' :: behind =>
      let next := mode.ahead? behind
      if next == some ']' || next == some '-' then alone else rangeEnd? mode atom behind
    | _ => alone

end Retarget.Expression
