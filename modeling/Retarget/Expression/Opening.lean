/-
**What a round bracket opens.**

A group takes a number, a name or flags; flags that no group follows change the mode of the rest of
the group that they are in.
-/

import Retarget.Expression.Basic
import Retarget.Text.Alphanumeric

namespace Retarget.Expression

/-- What stands behind a round bracket. -/
inductive Opening where
  | group (mode : Mode)
  | named (name : List Char)
  | flags (mode : Mode)
  deriving DecidableEq, Repr

/-- Whether a text can be the name of a group. -/
def isName : List Char → Bool
  | [] => false
  | first :: rest =>
    (first == '_' || isAlphabetic first) &&
      rest.all fun c => isAlphanumeric c || ['_', '.', '[', ']'].contains c

/-- Whether flags differ from each other, and one stands behind a `-`. -/
def areFlags (flags : List Char) : Bool :=
  flags.all ['i', 'm', 's', 'U', 'u', 'R', 'x', '-'].contains && decide flags.Nodup &&
    flags.getLast? != some '-'

namespace Opening

/-- The name of a group, up to its closing angle bracket. -/
def ofName? (text : List Char) : Option (Opening × List Char) :=
  let name := text.takeWhile (· != '>')
  match text.dropWhile (· != '>') with
  | '>' :: rest => if isName name then some (.named name, rest) else none
  | _ => none

/-- Flags for a group behind a colon, or for the rest of a group. -/
def ofFlags? (mode : Mode) (text : List Char) : Option (Opening × List Char) :=
  let isEnd (c : Char) : Bool := c == ':' || c == ')'
  let flags := text.takeWhile (!isEnd ·)
  let switched := mode.switched flags
  if !areFlags flags then none
  else match text.dropWhile (!isEnd ·) with
    | ':' :: rest => some (.group switched, rest)
    | ')' :: rest => if flags = [] then none else some (.flags switched, rest)
    | _ => none

/-- Reads what stands behind a round bracket. -/
def ofText? (mode : Mode) (text : List Char) : Option (Opening × List Char) :=
  match mode.skip text with
  | '?' :: 'P' :: '<' :: rest => ofName? rest
  | '?' :: '<' :: rest => ofName? rest
  | '?' :: rest => ofFlags? mode rest
  | rest => some (.group mode, rest)

end Opening

end Retarget.Expression
