/-
**How alike two words are.**

`similarity` is Jaro's measure, from 0 for words without a common letter to 1 for equal words.
Letters match when they are equal and their places are less than half the longer word apart; each
letter takes the first match that is left. Matched letters in another order count half.
-/

namespace Retarget

/-- Where a letter is first found among `places`, letters with a mark for those that are taken, at
an index from `low` up to below `high`. -/
def firstMatch (letter : Char) (low high : Nat) (places : List (Char × Bool)) : Option Nat :=
  (List.range high).find? fun index => decide (low ≤ index) && places[index]? == some (letter, false)

/-- The letters of a word from the index on that find a match, and the places they leave. -/
def matched (reach : Nat) : (index : Nat) → List Char → List (Char × Bool) →
    List Char × List (Char × Bool)
  | _, [], places => ([], places)
  | index, letter :: rest, places =>
    match firstMatch letter (index - reach) (index + reach + 1) places with
    | none => matched reach (index + 1) rest places
    | some found =>
      let (letters, places) := matched reach (index + 1) rest (places.set found (letter, true))
      (letter :: letters, places)

/-- Jaro's measure of two words. -/
def similarity (first second : List Char) : Float :=
  let reach := max first.length second.length / 2 - 1
  let (letters, places) := matched reach 0 first (second.map fun letter => (letter, false))
  let partners := (places.filter (·.2)).map (·.1)
  let crossed := ((letters.zip partners).filter fun pair => pair.1 != pair.2).length / 2
  let part (count whole : Nat) : Float := count.toFloat / whole.toFloat
  if first = [] ∧ second = [] then 1
  else if letters = [] then 0
  else (part letters.length first.length + part letters.length second.length
    + part (letters.length - crossed) letters.length) / 3

end Retarget
