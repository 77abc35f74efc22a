/-
**Numbers that count.**

A count is written in decimal digits, with or without a `+` in front, and fits into 64 bits.
-/

namespace Retarget.Count

/-- Why a text is not a count. -/
inductive Fault where
  | empty
  | notDigit
  | tooLarge
  deriving DecidableEq, Repr

def Fault.message : Fault → String
  | .empty => "cannot parse integer from empty string"
  | .notDigit => "invalid digit found in string"
  | .tooLarge => "number too large to fit in target type"

/-- Digits read onto a value, from left to right up to the first fault. -/
def digits (value : Nat) : List Char → Except Fault Nat
  | [] => .ok value
  | c :: rest =>
    if '0' ≤ c ∧ c ≤ '9' then
      let next := value * 10 + (c.toNat - 48)
      if next < 2 ^ 64 then digits next rest else .error .tooLarge
    else .error .notDigit

/-- The count that a text spells. -/
def parse (text : List Char) : Except Fault Nat :=
  match text with
  | [] => .error .empty
  | ['+'] => .error .notDigit
  | '+' :: rest => digits 0 rest
  | text => digits 0 text

end Retarget.Count
