/-
**How a decimal is written.**

`Layout.write` puts a shortest decimal into text: positional when the exponent of its first digit
lies in the range of the layout, with a fraction always, and otherwise one digit before the point,
the exponent with its sign.
-/

import Retarget.Decimal.Shortest

namespace Retarget.Decimal

/-- Where positional notation begins and ends. -/
structure Layout where
  leastPositional : Int
  greatestPositional : Int

/-- A digit sequence without the zeros at its end. -/
def trimZeros (digits : List Char) : List Char := (digits.reverse.dropWhile (· == '0')).reverse

/-- The digits of a number, the last one no zero, and the exponent of the first one. -/
def Number.scientific (number : Number) : List Char × Int :=
  let digits := (Nat.repr number.digits).toList
  (trimZeros digits, number.exponent + digits.length - 1)

def zeros (count : Nat) : List Char := List.replicate count '0'

/-- Positional notation of digits whose first one has the given exponent. -/
def positional (digits : List Char) (exponent : Int) : List Char :=
  if exponent < 0 then '0' :: '.' :: zeros (-exponent - 1).toNat ++ digits
  else
    let whole := exponent.toNat + 1
    if digits.length ≤ whole then digits ++ zeros (whole - digits.length) ++ ['.', '0']
    else digits.take whole ++ '.' :: digits.drop whole

/-- Scientific notation of digits whose first one has the given exponent. -/
def withExponent (digits : List Char) (exponent : Int) : List Char :=
  let mantissa := match digits with
    | first :: rest@(_ :: _) => first :: '.' :: rest
    | short => short
  let sign := if exponent < 0 then '-' else '+'
  mantissa ++ 'e' :: sign :: (Nat.repr exponent.natAbs).toList

/-- The text of a finite double. -/
def Layout.write (layout : Layout) (x : Float) : String :=
  let bits := x.toBits
  let sign := if bits.toNat < 0x8000000000000000 then [] else ['-']
  let magnitude := Binary.ofBits bits
  let body :=
    if magnitude.mantissa = 0 then ['0', '.', '0']
    else
      let (digits, exponent) := (shortest magnitude).scientific
      if layout.leastPositional ≤ exponent ∧ exponent ≤ layout.greatestPositional then
        positional digits exponent
      else withExponent digits exponent
  String.ofList (sign ++ body)

end Retarget.Decimal
