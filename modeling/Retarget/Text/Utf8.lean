/-
**Bytes read as UTF-8.**

A byte sequence falls into pieces: a character, or the longest run of bytes that begins a character
and is not one. `Utf8.pieces` reads from the left and `Utf8.front` is its one step.

* `Utf8.decode?`: the text, when no piece is broken;
* `Utf8.decodeLossy`: the text with the replacement character in the place of each broken piece;
* `Utf8.encode`: the bytes of a text.
-/

namespace Retarget

/-- Paths, file contents and arguments are bytes: they need not be text. -/
abbrev Bytes := List UInt8

namespace Utf8

/-- What a byte that opens a longer character says: how many bytes follow, in which range the first
of them lies, and the high bits of the code point. -/
structure Lead where
  extra : Nat
  low : UInt8
  high : UInt8
  bits : Nat

/-- The well-formed openings: no overlong form, no surrogate, nothing above `U+10FFFF`. -/
def lead? (byte : UInt8) : Option Lead :=
  if byte < 0xC2 then none
  else if byte ≤ 0xDF then some ⟨1, 0x80, 0xBF, byte.toNat - 0xC0⟩
  else if byte = 0xE0 then some ⟨2, 0xA0, 0xBF, 0⟩
  else if byte = 0xED then some ⟨2, 0x80, 0x9F, 0xD⟩
  else if byte ≤ 0xEF then some ⟨2, 0x80, 0xBF, byte.toNat - 0xE0⟩
  else if byte = 0xF0 then some ⟨3, 0x90, 0xBF, 0⟩
  else if byte ≤ 0xF3 then some ⟨3, 0x80, 0xBF, byte.toNat - 0xF0⟩
  else if byte = 0xF4 then some ⟨3, 0x80, 0x8F, 4⟩
  else none

def isContinuation (byte : UInt8) : Bool := 0x80 ≤ byte && byte ≤ 0xBF

/-- The bytes of `rest` that go on with the character opened by `lead`, at most as many as it
asks for. -/
def Lead.follow (lead : Lead) : Bytes → Bytes
  | [] => []
  | byte :: rest =>
    if lead.low ≤ byte && byte ≤ lead.high then
      byte :: (rest.take (lead.extra - 1)).takeWhile isContinuation
    else []

/-- A character, or bytes that begin one and are none. -/
inductive Piece where
  | char (c : Char)
  | broken (bytes : Bytes)
  deriving DecidableEq, Repr

/-- The piece that starts with `byte`, and how many bytes of `rest` belong to it. -/
def front (byte : UInt8) (rest : Bytes) : Piece × Nat :=
  if byte < 0x80 then (.char (Char.ofNat byte.toNat), 0)
  else match lead? byte with
    | none => (.broken [byte], 0)
    | some lead =>
      let tail := lead.follow rest
      if tail.length = lead.extra then
        (.char (Char.ofNat (tail.foldl (fun code b => code * 64 + b.toNat % 64) lead.bits)),
          lead.extra)
      else (.broken (byte :: tail), tail.length)

/-- Adds the pieces of a sequence, less its first `skip` bytes, to those already read. -/
def piecesOnto (done : List Piece) : (skip : Nat) → Bytes → List Piece
  | _, [] => done.reverse
  | skip + 1, _ :: rest => piecesOnto done skip rest
  | 0, byte :: rest => piecesOnto ((front byte rest).1 :: done) (front byte rest).2 rest

/-- A byte sequence from left to right, each byte in one piece. -/
def pieces (bytes : Bytes) : List Piece := piecesOnto [] 0 bytes

theorem piecesOnto_eq (done : List Piece) (skip : Nat) (bytes : Bytes) :
    piecesOnto done skip bytes = done.reverse ++ pieces (bytes.drop skip) := by
  suffices general : ∀ (bytes : Bytes) (done extra : List Piece) (skip : Nat),
      piecesOnto (extra ++ done) skip bytes = done.reverse ++ piecesOnto extra skip bytes by
    have split := general bytes done [] skip
    simp only [List.nil_append] at split
    rw [split]
    congr 1
    clear split general
    induction bytes generalizing skip with
    | nil => simp [pieces, piecesOnto]
    | cons byte rest ih =>
      cases skip with
      | zero => rfl
      | succ skip => simpa [piecesOnto] using ih skip
  intro bytes
  induction bytes with
  | nil => intro done extra skip; cases skip <;> simp [piecesOnto]
  | cons byte rest ih =>
    intro done extra skip
    cases skip with
    | zero => simpa [piecesOnto] using ih done ((front byte rest).1 :: extra) (front byte rest).2
    | succ skip => simpa [piecesOnto] using ih done extra skip

@[simp] theorem pieces_nil : pieces [] = [] := rfl

theorem pieces_cons (byte : UInt8) (rest : Bytes) :
    pieces (byte :: rest) = (front byte rest).1 :: pieces (rest.drop (front byte rest).2) := by
  simp only [pieces, piecesOnto]
  rw [piecesOnto_eq]
  rfl

def Piece.char? : Piece → Option Char
  | .char c => some c
  | .broken _ => none

/-- The character that stands for a piece: `U+FFFD` for a broken one. -/
def Piece.shown : Piece → Char
  | .char c => c
  | .broken _ => '\uFFFD'

/-- The text of a byte sequence, when all of it is well formed. -/
def decode? (bytes : Bytes) : Option (List Char) := (pieces bytes).mapM Piece.char?

/-- The text of a byte sequence, each broken piece replaced by one `U+FFFD`. -/
def decodeLossy (bytes : Bytes) : List Char := (pieces bytes).map Piece.shown

/-- The bytes of a text. -/
def encode (text : List Char) : Bytes := text.flatMap String.utf8EncodeChar

/-- How many bytes a text takes. -/
def size (text : List Char) : Nat := text.foldl (fun sum c => sum + c.utf8Size) 0

end Utf8

/-- The bytes of a string. -/
def Bytes.ofString (text : String) : Bytes := Utf8.encode text.toList

/-- A byte sequence as it is shown in messages. -/
def Bytes.shown (bytes : Bytes) : String := String.ofList (Utf8.decodeLossy bytes)

/-- The string that a byte sequence spells, when it is well formed. -/
def Bytes.toString? (bytes : Bytes) : Option String := (Utf8.decode? bytes).map String.ofList

end Retarget
