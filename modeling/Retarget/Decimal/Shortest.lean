/-
**The shortest decimal of a floating-point number.**

A finite number is `mantissa * 2 ^ exponent`, and every real number between the middles to its two
neighbours rounds to it. `Decimal.shortest` looks for a decimal in that interval, first among those
of one digit, then of two, and so on; on each grid only the two points around the number can be the
nearest, and the nearer of those inside the interval is taken, the even one when both are as near.
-/

namespace Retarget.Decimal

/-- A finite nonnegative number as `mantissa * 2 ^ exponent`; `closeBelow` says that the neighbour
below is only half as far as the one above. -/
structure Binary where
  mantissa : Nat
  exponent : Int
  closeBelow : Bool

/-- The magnitude of a finite double from its 64 bits: of 53 bits of the mantissa 52 are written. -/
def Binary.ofBits (bits : UInt64) : Binary :=
  let hidden : Nat := 0x10000000000000
  let fraction : Nat := bits.toNat % hidden
  let field : Nat := bits.toNat / hidden % 0x800
  if field = 0 then ⟨fraction, -1074, false⟩
  else ⟨fraction + hidden, (field : Int) - 1075, fraction == 0 && 1 < field⟩

/-- A number and the interval that rounds to it, as multiples of `1 / unit`. -/
structure Interval where
  low : Nat
  middle : Nat
  high : Nat
  unit : Nat
  /-- Whether the ends belong to the interval. -/
  closed : Bool

/-- The interval of the reals that round to a number: its ends round to the even mantissa. -/
def Binary.interval (x : Binary) : Interval :=
  let scale := Nat.pow 2 (x.exponent - 2).toNat
  { low := (4 * x.mantissa - if x.closeBelow then 1 else 2) * scale
    middle := 4 * x.mantissa * scale
    high := (4 * x.mantissa + 2) * scale
    unit := Nat.pow 2 (2 - x.exponent).toNat
    closed := x.mantissa % 2 == 0 }

/-- The digits and the exponent of `digits * 10 ^ exponent`. -/
structure Number where
  digits : Nat
  exponent : Int
  deriving DecidableEq, Repr

/-- How many decimal digits a natural number has, counted up to `limit`. -/
def countDigits : (limit : Nat) → Nat → Nat
  | 0, _ => 0
  | limit + 1, n => if n = 0 then 0 else countDigits limit (n / 10) + 1

/-- How often `num` has to be multiplied by ten to reach `den`, counted up to `limit`. -/
def stepsUp (den : Nat) : (limit : Nat) → (num : Nat) → Nat
  | 0, _ => 0
  | limit + 1, num => if den ≤ num then 0 else stepsUp den limit (num * 10) + 1

/-- The exponent of the first digit of `num / den`, for a positive `num`. -/
def leadingExponent (num den : Nat) : Int :=
  if den ≤ num then (countDigits (Nat.log2 num + 1) (num / den) : Int) - 1
  else -(stepsUp den (Nat.log2 den + 1) num : Int)

/-- The point of the grid `10 ^ exponent` that stands for the number, if one lies in the
interval. -/
def Interval.onGrid (interval : Interval) (exponent : Int) : Option Number :=
  let up := Nat.pow 10 (-exponent).toNat
  let unit := interval.unit * Nat.pow 10 exponent.toNat
  let inside (n : Nat) : Bool :=
    if interval.closed then interval.low * up ≤ n * unit && n * unit ≤ interval.high * up
    else interval.low * up < n * unit && n * unit < interval.high * up
  let below := interval.middle * up / unit
  let gap := interval.middle * up % unit
  let pick (n : Nat) : Option Number := some ⟨n, exponent⟩
  match inside below, inside (below + 1) with
  | false, false => none
  | true, false => pick below
  | false, true => pick (below + 1)
  | true, true =>
    if 2 * gap < unit || (2 * gap == unit && below % 2 == 0) then pick below else pick (below + 1)

/-- The first grid with a point in the interval, from the grid of `exponent` to finer ones. -/
def Interval.search (interval : Interval) : (grids : Nat) → (exponent : Int) → Number
  | 0, exponent => ⟨interval.middle / interval.unit, exponent⟩
  | grids + 1, exponent =>
    match interval.onGrid exponent with
    | some number => number
    | none => interval.search grids (exponent - 1)

/-- The shortest decimal that rounds to a positive number. Seventeen digits are always enough. -/
def shortest (x : Binary) : Number :=
  let interval := x.interval
  interval.search 17 (leadingExponent interval.middle interval.unit)

end Retarget.Decimal
