/-
**Patterns over characters.**

* `Pattern.Matches`: which words a pattern stands for;
* `Pattern.derivative`: what is left of a pattern once its first character is read;
* `Pattern.leads`: some beginning of a text is a match;
* `Pattern.occursIn`: some stretch of a text is a match.
-/

namespace Retarget

/-- A regular pattern. -/
inductive Pattern where
  /-- Nothing matches. -/
  | fail
  /-- Only the empty word matches. -/
  | empty
  /-- One character of a class. -/
  | one (allowed : Char → Bool)
  | seq (first second : Pattern)
  | either (first second : Pattern)
  /-- Any number of repetitions, none included. -/
  | many (body : Pattern)

namespace Pattern

/-- The words that a pattern stands for. -/
inductive Matches : Pattern → List Char → Prop where
  | empty : Matches .empty []
  | one {allowed : Char → Bool} {c : Char} : allowed c = true → Matches (.one allowed) [c]
  | seq {first second : Pattern} {left right : List Char} :
      Matches first left → Matches second right → Matches (.seq first second) (left ++ right)
  | left {first second : Pattern} {word : List Char} :
      Matches first word → Matches (.either first second) word
  | right {first second : Pattern} {word : List Char} :
      Matches second word → Matches (.either first second) word
  | done {body : Pattern} : Matches (.many body) []
  | again {body : Pattern} {left right : List Char} :
      Matches body left → Matches (.many body) right → Matches (.many body) (left ++ right)

/-- The one word `word`. -/
def literal (word : String) : Pattern :=
  word.toList.foldr (fun c rest => .seq (.one (· == c)) rest) .empty

def optional (body : Pattern) : Pattern := .either .empty body

/-- Patterns one after the other. -/
def inOrder (parts : List Pattern) : Pattern := parts.foldr .seq .empty

/-- Whether the empty word matches. -/
def nullable : Pattern → Bool
  | .fail | .one _ => false
  | .empty | .many _ => true
  | .seq first second => first.nullable && second.nullable
  | .either first second => first.nullable || second.nullable

/-- `seq`, with a part that cannot match or matches only the empty word left out. -/
def andThen : Pattern → Pattern → Pattern
  | .fail, _ => .fail
  | .empty, second => second
  | first, second => .seq first second

/-- `either`, with a part that cannot match left out. -/
def orElse : Pattern → Pattern → Pattern
  | .fail, second => second
  | first, .fail => first
  | first, second => .either first second

/-- The pattern of what may follow `c` in a match that starts with `c`. -/
def derivative (c : Char) : Pattern → Pattern
  | .fail | .empty => .fail
  | .one allowed => if allowed c then .empty else .fail
  | .seq first second =>
    let read := (first.derivative c).andThen second
    if first.nullable then read.orElse (second.derivative c) else read
  | .either first second => (first.derivative c).orElse (second.derivative c)
  | .many body => (body.derivative c).andThen (.many body)

/-- Whether a beginning of the text matches, the empty one included. -/
def leads : Pattern → List Char → Bool
  | .fail, _ => false
  | pattern, [] => pattern.nullable
  | pattern, c :: rest => pattern.nullable || (pattern.derivative c).leads rest

/-- Whether a stretch of the text matches. -/
def occursIn (pattern : Pattern) : List Char → Bool
  | [] => pattern.leads []
  | c :: rest => pattern.leads (c :: rest) || pattern.occursIn rest

end Pattern

end Retarget
