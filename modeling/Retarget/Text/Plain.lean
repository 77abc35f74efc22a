/-
**Text that steers no terminal.**

`plain` drops control characters other than white space, and control sequences as a whole: an escape
character with what belongs to it.
-/

import Retarget.Text.Utf8

namespace Retarget

/-- The control sequence that is being read. -/
inductive Sequence where
  | none
  /-- Behind an escape character. -/
  | start
  /-- A sequence that a digit, a letter or a sign ends. -/
  | short
  /-- A sequence that a letter or a sign ends. -/
  | control
  /-- A command to the system, which a bell ends. -/
  | command
  /-- A string, which a terminator ends. -/
  | string
  deriving DecidableEq, Repr

namespace Sequence

/-- White space among the control characters. -/
def isBreak (byte : UInt8) : Bool := byte == 0x09 || byte == 0x0A || byte == 0x0C || byte == 0x0D

/-- The sequence that is read behind an escape character and a byte. -/
def ofByte (byte : UInt8) : Sequence :=
  if byte < 0x20 || 0x7F ≤ byte then .start
  else if byte ≤ 0x2F then .short
  else match byte with
    | 0x5B => .control
    | 0x5D => .command
    | 0x50 | 0x58 | 0x5E | 0x5F => .string
    | _ => .none

/-- Reads a byte, and says whether it is kept. White space ends a sequence that is no command and no
string. -/
def step (sequence : Sequence) (byte : UInt8) : Sequence × Bool :=
  if byte = 0x1B then (.start, false)
  else if byte = 0x18 ∨ byte = 0x1A then (.none, false)
  else match sequence with
    | .none => (.none, isBreak byte || (0x20 ≤ byte && byte != 0x7F))
    | .start => if isBreak byte then (.none, true) else (ofByte byte, false)
    | .short =>
      if isBreak byte then (.none, true)
      else (if 0x30 ≤ byte && byte < 0x7F then .none else .short, false)
    | .control =>
      if isBreak byte then (.none, true)
      else (if 0x40 ≤ byte && byte < 0x7F then .none else .control, false)
    | .command => (if byte = 0x07 then .none else .command, false)
    | .string => (if byte = 0x9C then .none else .string, false)

/-- The bytes that are kept. -/
def strip (sequence : Sequence) : Bytes → Bytes
  | [] => []
  | byte :: rest =>
    let (next, keeps) := sequence.step byte
    if keeps then byte :: next.strip rest else next.strip rest

end Sequence

/-- A text without what steers a terminal. -/
def plain (text : String) : String := Bytes.shown (Sequence.none.strip (Bytes.ofString text))

end Retarget
