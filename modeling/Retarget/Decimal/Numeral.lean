/-
**Texts that spell a number.**

A numeral has a sign or none, digits with or without a point among them, and a power of ten or none;
infinity and what is not a number have names of their own.
-/

namespace Retarget.Decimal

/-- A text without the sign in front of it. -/
def unsigned : List Char → List Char
  | '+' :: text => text
  | '-' :: text => text
  | text => text

/-- Whether a text is nothing or a power of ten. -/
def isPower : List Char → Bool
  | [] => true
  | mark :: text =>
    let digits := unsigned text
    mark.toLower == 'e' && !digits.isEmpty && digits.all Char.isDigit

/-- Whether a text is made of digits, of which one at least stands before or behind the point, and
of a power of ten. -/
def isDecimal (text : List Char) : Bool :=
  let whole := text.takeWhile Char.isDigit
  match text.dropWhile Char.isDigit with
  | '.' :: rest =>
    (!whole.isEmpty || (rest.head?.elim false Char.isDigit)) &&
      isPower (rest.dropWhile Char.isDigit)
  | rest => !whole.isEmpty && isPower rest

/-- Whether a text spells a number, in letters of any case. -/
def isNumeral (text : List Char) : Bool :=
  let body := unsigned text
  isDecimal body || ["inf", "infinity", "nan"].contains (String.ofList (body.map Char.toLower))

end Retarget.Decimal
