/-
**Markup in a script.**

A content counts as markup when one of five tag shapes occurs in it: `<Name>`, `<Name attributes>`,
`<name>`, `<name attributes>`, `<>`, `</>`, `<Name attributes />`. This is a guess by shape and no
parse: a comparison that happens to look like a tag counts.
-/

import Retarget.Pattern
import Retarget.Text.Blank

namespace Retarget.Markup

def isUpper (c : Char) : Bool := 'A' ≤ c && c ≤ 'Z'

def isLower (c : Char) : Bool := 'a' ≤ c && c ≤ 'z'

def isDigit (c : Char) : Bool := '0' ≤ c && c ≤ '9'

/-- What a component name goes on with. -/
def isComponentChar (c : Char) : Bool := isUpper c || isLower c || isDigit c || c == '_' || c == '.'

/-- What an element name goes on with. -/
def isElementChar (c : Char) : Bool := isUpper c || isLower c || isDigit c || c == '_' || c == '-'

/-- A name that starts with a capital letter. -/
def componentName : Pattern := .seq (.one isUpper) (.many (.one isComponentChar))

/-- A name that starts with a small letter. -/
def elementName : Pattern := .seq (.one isLower) (.many (.one isElementChar))

/-- Nothing, or a blank and then anything up to an angle bracket. -/
def attributes : Pattern :=
  .optional (.seq (.one isBlank) (.many (.one fun c => c != '<' && c != '>')))

/-- The five shapes of a tag. -/
def tags : List Pattern :=
  [ .inOrder [.literal "<", componentName, attributes, .literal ">"],
    .inOrder [.literal "<", elementName, attributes, .literal ">"],
    .literal "<>",
    .literal "</>",
    .inOrder [.literal "<", componentName, attributes, .literal "/>"] ]

end Markup

/-- Whether a text looks as if it held markup. -/
def hasMarkup (text : List Char) : Bool := Markup.tags.any (·.occursIn text)

end Retarget
