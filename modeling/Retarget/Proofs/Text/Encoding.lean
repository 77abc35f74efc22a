/-
**Text written as bytes and read back.**

The bytes of a character are one piece, whatever follows them: the first byte says how many go on
with it, the second one is in the range that leaves out overlong forms, surrogates and all above the
last character, and the low bits of all of them make up the character. So the bytes of a text fall
into its characters.

* `Utf8.front_encodeChar`: the piece at the front of the bytes of a character;
* `Utf8.pieces_encode`: the pieces of the bytes of a text, with more bytes behind them;
* `Bytes.toString?_ofString`: a string is read back.
-/

import Mathlib.Data.List.TakeWhile
import Mathlib.Tactic.IntervalCases
import Retarget.Text.Utf8

namespace Retarget

namespace Utf8

variable {lead : Lead} {byte second : UInt8} {tail rest : Bytes} {c : Char}

/-! ### One character -/

/-- **The bytes that go on with a character** are taken, when there are as many as the lead asks
for. -/
theorem follow_of_length (low : lead.low ≤ second) (high : second ≤ lead.high)
    (more : ∀ byte ∈ tail, isContinuation byte = true) (long : tail.length = lead.extra - 1) :
    lead.follow (second :: tail ++ rest) = second :: tail := by
  rw [List.cons_append, Lead.follow, if_pos (by simp [low, high]), ← long, List.take_left,
    List.takeWhile_eq_self_iff.mpr more]

/-- The piece of a first byte and of all bytes that it asks for. -/
theorem front_of_lead? (large : 0x80 ≤ byte) (opens : lead? byte = some lead)
    (follow : lead.follow (tail ++ rest) = tail) (long : tail.length = lead.extra) :
    front byte (tail ++ rest) =
      (.char (Char.ofNat (tail.foldl (fun code b => code * 64 + b.toNat % 64) lead.bits)),
        tail.length) := by
  rw [front, if_neg (UInt8.not_lt.mpr large), opens]
  simp only [follow, long, if_true]

theorem isContinuation_ofNat (bits : Nat) :
    isContinuation (UInt8.ofNat (bits % 0x40 + 0x80)) = true := by
  simp only [isContinuation, Bool.and_eq_true, decide_eq_true_eq, UInt8.le_iff_toNat_le,
    UInt8.toNat_ofNat', UInt8.reduceToNat]
  omega

theorem toNat_ofNat_mod (bits : Nat) :
    (UInt8.ofNat (bits % 0x40 + 0x80)).toNat % 64 = bits % 64 := by
  rw [UInt8.toNat_ofNat']
  omega

/-! ### First bytes -/

theorem lead?_two {n : Nat} (low : 2 ≤ n) (high : n < 0x20) :
    lead? (UInt8.ofNat (n + 0xC0)) = some ⟨1, 0x80, 0xBF, n⟩ := by
  interval_cases n <;> rfl

/-- Three bytes leave out what two can say, and the surrogates. -/
theorem lead?_three {n : Nat} (high : n < 0x10) : lead? (UInt8.ofNat (n + 0xE0)) =
    some ⟨2, if n = 0 then 0xA0 else 0x80, if n = 0xD then 0x9F else 0xBF, n⟩ := by
  interval_cases n <;> rfl

/-- Four bytes leave out what three can say, and what lies above the last character. -/
theorem lead?_four {n : Nat} (high : n < 5) : lead? (UInt8.ofNat (n + 0xF0)) =
    some ⟨3, if n = 0 then 0x90 else 0x80, if n = 4 then 0x8F else 0xBF, n⟩ := by
  interval_cases n <;> rfl

/-! ### One character -/

theorem front_two {v : Nat} (low : 0x7F < v) (high : v ≤ 0x7FF) (rest : Bytes) :
    front (UInt8.ofNat (v / 64 % 0x20 + 0xC0)) ([UInt8.ofNat (v % 0x40 + 0x80)] ++ rest) =
      (.char (Char.ofNat v), 1) := by
  have large : 0x80 ≤ UInt8.ofNat (v / 64 % 0x20 + 0xC0) := by
    simp only [UInt8.le_iff_toNat_le, UInt8.toNat_ofNat', UInt8.reduceToNat]
    omega
  have inRange : 0x80 ≤ UInt8.ofNat (v % 0x40 + 0x80) ∧ UInt8.ofNat (v % 0x40 + 0x80) ≤ 0xBF := by
    simp only [UInt8.le_iff_toNat_le, UInt8.toNat_ofNat', UInt8.reduceToNat]
    omega
  have code : v / 64 % 32 * 64 + v % 64 = v := by omega
  rw [front_of_lead? large (lead?_two (by omega) (by omega))
    (follow_of_length inRange.1 inRange.2 (by simp) rfl) rfl]
  simp only [List.foldl_cons, List.foldl_nil, toNat_ofNat_mod, code, List.length_singleton]

theorem front_three {v : Nat} (low : 0x7FF < v) (high : v ≤ 0xFFFF) (scalar : v.isValidChar)
    (rest : Bytes) :
    front (UInt8.ofNat (v / 4096 % 0x10 + 0xE0))
      ([UInt8.ofNat (v / 64 % 0x40 + 0x80), UInt8.ofNat (v % 0x40 + 0x80)] ++ rest) =
        (.char (Char.ofNat v), 2) := by
  unfold Nat.isValidChar at scalar
  have large : 0x80 ≤ UInt8.ofNat (v / 4096 % 0x10 + 0xE0) := by
    simp only [UInt8.le_iff_toNat_le, UInt8.toNat_ofNat', UInt8.reduceToNat]
    omega
  have above :
      (if v / 4096 % 0x10 = 0 then 0xA0 else 0x80) ≤ UInt8.ofNat (v / 64 % 0x40 + 0x80) := by
    split <;> simp only [UInt8.le_iff_toNat_le, UInt8.toNat_ofNat', UInt8.reduceToNat] <;> omega
  have below : UInt8.ofNat (v / 64 % 0x40 + 0x80) ≤
      if v / 4096 % 0x10 = 0xD then 0x9F else 0xBF := by
    split <;> simp only [UInt8.le_iff_toNat_le, UInt8.toNat_ofNat', UInt8.reduceToNat] <;> omega
  have code : (v / 4096 % 16 * 64 + v / 64 % 64) * 64 + v % 64 = v := by omega
  have more : ∀ byte ∈ [UInt8.ofNat (v % 0x40 + 0x80)], isContinuation byte = true :=
    List.forall_mem_singleton.mpr (isContinuation_ofNat v)
  rw [front_of_lead? large (lead?_three (by omega)) (follow_of_length above below more rfl) rfl]
  simp only [List.foldl_cons, List.foldl_nil, toNat_ofNat_mod, code, List.length_cons,
    List.length_nil]

theorem front_four {v : Nat} (low : 0xFFFF < v) (high : v < 0x110000) (rest : Bytes) :
    front (UInt8.ofNat (v / 262144 % 0x08 + 0xF0))
      ([UInt8.ofNat (v / 4096 % 0x40 + 0x80), UInt8.ofNat (v / 64 % 0x40 + 0x80),
        UInt8.ofNat (v % 0x40 + 0x80)] ++ rest) = (.char (Char.ofNat v), 3) := by
  have large : 0x80 ≤ UInt8.ofNat (v / 262144 % 0x08 + 0xF0) := by
    simp only [UInt8.le_iff_toNat_le, UInt8.toNat_ofNat', UInt8.reduceToNat]
    omega
  have above : (if v / 262144 % 0x08 = 0 then 0x90 else 0x80) ≤
      UInt8.ofNat (v / 4096 % 0x40 + 0x80) := by
    split <;> simp only [UInt8.le_iff_toNat_le, UInt8.toNat_ofNat', UInt8.reduceToNat] <;> omega
  have below : UInt8.ofNat (v / 4096 % 0x40 + 0x80) ≤
      if v / 262144 % 0x08 = 4 then 0x8F else 0xBF := by
    split <;> simp only [UInt8.le_iff_toNat_le, UInt8.toNat_ofNat', UInt8.reduceToNat] <;> omega
  have code : ((v / 262144 % 8 * 64 + v / 4096 % 64) * 64 + v / 64 % 64) * 64 + v % 64 = v := by
    omega
  have more : ∀ byte ∈ [UInt8.ofNat (v / 64 % 0x40 + 0x80), UInt8.ofNat (v % 0x40 + 0x80)],
      isContinuation byte = true :=
    List.forall_mem_cons.mpr
      ⟨isContinuation_ofNat (v / 64), List.forall_mem_singleton.mpr (isContinuation_ofNat v)⟩
  rw [front_of_lead? large (lead?_four (by omega)) (follow_of_length above below more rfl) rfl]
  simp only [List.foldl_cons, List.foldl_nil, toNat_ofNat_mod, code, List.length_cons,
    List.length_nil]

/-- **The piece at the front of the bytes of a character** is that character. -/
theorem front_encodeChar (c : Char) (rest : Bytes) :
    ∃ byte tail, String.utf8EncodeChar c = byte :: tail ∧
      front byte (tail ++ rest) = (.char c, tail.length) := by
  have scalar : c.val.toNat.isValidChar := c.valid
  have bounded : c.val.toNat < 0x110000 := by
    unfold Nat.isValidChar at scalar
    omega
  have same : Char.ofNat c.val.toNat = c := Char.ofNat_toNat c
  unfold String.utf8EncodeChar
  dsimp only
  split
  · next small =>
    have ascii : UInt8.ofNat c.val.toNat < 0x80 := by
      simp only [UInt8.lt_iff_toNat_lt, UInt8.toNat_ofNat', UInt8.reduceToNat]
      omega
    have code : (UInt8.ofNat c.val.toNat).toNat = c.val.toNat := by
      rw [UInt8.toNat_ofNat']
      omega
    refine ⟨_, [], rfl, ?_⟩
    rw [front, if_pos ascii, code, same]
    rfl
  · next large =>
    split
    · next two =>
      refine ⟨_, _, rfl, ?_⟩
      rw [front_two (by omega) two, same]
      rfl
    · next large =>
      split
      · next three =>
        refine ⟨_, _, rfl, ?_⟩
        rw [front_three (by omega) three scalar, same]
        rfl
      · next large =>
        refine ⟨_, _, rfl, ?_⟩
        rw [front_four (by omega) bounded, same]
        rfl

/-! ### Texts -/

/-- **The pieces of the bytes of a text** are its characters, whatever follows. -/
theorem pieces_encode (text : List Char) (rest : Bytes) :
    pieces (encode text ++ rest) = text.map .char ++ pieces rest := by
  induction text with
  | nil => rfl
  | cons c text ih =>
    obtain ⟨byte, tail, bytes, piece⟩ := front_encodeChar c (encode text ++ rest)
    have split : encode (c :: text) ++ rest = byte :: (tail ++ (encode text ++ rest)) := by
      simp [encode, bytes]
    rw [split, pieces_cons, piece, List.drop_left, ih]
    rfl

theorem decode?_encode (text : List Char) : decode? (encode text) = some text := by
  have whole := pieces_encode text []
  rw [List.append_nil, pieces_nil, List.append_nil] at whole
  rw [decode?, whole]
  clear whole
  induction text with
  | nil => rfl
  | cons c text ih => simp [Piece.char?, ih]

end Utf8

/-- **A string is read back** from its bytes. -/
theorem Bytes.toString?_ofString (text : String) : (Bytes.ofString text).toString? = some text := by
  rw [Bytes.toString?, Bytes.ofString, Utf8.decode?_encode, Option.map_some, String.ofList_toList]

end Retarget
