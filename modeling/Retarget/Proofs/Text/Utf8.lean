/-
**Text on both sides of an ASCII byte.**

An ASCII byte is a character of its own and goes on with none, so it ends whatever piece stands
before it. A byte sequence can therefore be read in two parts at any of its ASCII bytes, also where
it is no text.

* `Utf8.front_append`: the piece at the front does not look behind an ASCII byte;
* `Utf8.pieces_append`: the pieces on both sides of an ASCII byte;
* `Utf8.decodeLossy_append`: the text on both sides of it.
-/

import Mathlib.Data.List.Basic
import Retarget.Text.Utf8

namespace Retarget.Utf8

variable {ascii : UInt8}

/-! ### The piece at the front -/

theorem not_isContinuation (small : ascii < 0x80) : isContinuation ascii = false := by
  rw [isContinuation, Bool.and_eq_false_iff]
  exact .inl (decide_eq_false (UInt8.not_le.mpr small))

/-- No byte that goes on with a character is ASCII. -/
theorem low_of_lead? {byte : UInt8} {lead : Lead} (opens : lead? byte = some lead) :
    0x80 ≤ lead.low := by
  unfold lead? at opens
  repeat' split at opens
  all_goals simp only [reduceCtorEq, Option.some.injEq] at opens
  all_goals
    subst opens
    dsimp only
    decide

theorem takeWhile_append_stop {α : Type} {keeps : α → Bool} {stop : α}
    (stops : keeps stop = false) (before behind : List α) :
    (before ++ stop :: behind).takeWhile keeps = before.takeWhile keeps := by
  induction before with
  | nil => simp [stops]
  | cons a rest ih => rw [List.cons_append, List.takeWhile_cons, List.takeWhile_cons, ih]

/-- **What goes on with a character** stands before the next ASCII byte. -/
theorem follow_append {lead : Lead} (high : 0x80 ≤ lead.low) (small : ascii < 0x80)
    (before behind : Bytes) :
    lead.follow (before ++ ascii :: behind) = lead.follow before := by
  cases before with
  | nil =>
    have outside : (lead.low ≤ ascii && ascii ≤ lead.high) = false := by
      rw [Bool.and_eq_false_iff]
      exact .inl (decide_eq_false (UInt8.not_le.mpr (UInt8.lt_of_lt_of_le small high)))
    simp [Lead.follow, outside]
  | cons byte rest =>
    have more : ((rest ++ ascii :: behind).take (lead.extra - 1)).takeWhile isContinuation =
        (rest.take (lead.extra - 1)).takeWhile isContinuation := by
      rw [List.take_append]
      cases left : lead.extra - 1 - rest.length with
      | zero => rw [List.take_zero, List.append_nil]
      | succ count =>
        rw [List.take_succ_cons, takeWhile_append_stop (not_isContinuation small)]
    rw [List.cons_append, Lead.follow, Lead.follow, more]

/-- **The piece at the front** does not look behind an ASCII byte. -/
theorem front_append (small : ascii < 0x80) (byte : UInt8) (before behind : Bytes) :
    front byte (before ++ ascii :: behind) = front byte before := by
  unfold front
  split
  · rfl
  · cases opens : lead? byte with
    | none => rfl
    | some lead => simp only [follow_append (low_of_lead? opens) small]

theorem length_follow_le (lead : Lead) (rest : Bytes) : (lead.follow rest).length ≤ rest.length := by
  cases rest with
  | nil => simp [Lead.follow]
  | cons byte rest =>
    rw [Lead.follow]
    split
    · have shorter := (List.takeWhile_prefix (p := isContinuation)
        (l := rest.take (lead.extra - 1))).length_le
      rw [List.length_take] at shorter
      rw [List.length_cons, List.length_cons]
      omega
    · simp

theorem front_snd_le (byte : UInt8) (rest : Bytes) : (front byte rest).2 ≤ rest.length := by
  unfold front
  split
  · exact Nat.zero_le _
  · cases lead? byte with
    | none => exact Nat.zero_le _
    | some lead =>
      have shorter := length_follow_le lead rest
      dsimp only
      split
      · next whole => rwa [← whole]
      · exact shorter

/-! ### All pieces -/

/-- **The pieces on both sides of an ASCII byte.** -/
theorem pieces_append (small : ascii < 0x80) (before behind : Bytes) :
    pieces (before ++ ascii :: behind) = pieces before ++ pieces (ascii :: behind) := by
  induction long : before.length using Nat.strongRecOn generalizing before with
  | _ count ih =>
    cases before with
    | nil => simp
    | cons byte rest =>
      -- The induction is on the length: a piece may take more than one byte.
      have fits := front_snd_le byte rest
      have shorter : (rest.drop (front byte rest).2).length < count := by
        rw [← long, List.length_drop, List.length_cons]
        omega
      rw [List.cons_append, pieces_cons, pieces_cons, front_append small,
        List.drop_append_of_le_length fits, ih _ shorter _ rfl, List.cons_append]

theorem pieces_ascii (small : ascii < 0x80) (behind : Bytes) :
    pieces (ascii :: behind) = .char (Char.ofNat ascii.toNat) :: pieces behind := by
  rw [pieces_cons, front, if_pos small, List.drop_zero]

/-- **The text on both sides of an ASCII byte**, with broken pieces replaced. -/
theorem decodeLossy_append (small : ascii < 0x80) (before behind : Bytes) :
    decodeLossy (before ++ ascii :: behind) =
      decodeLossy before ++ Char.ofNat ascii.toNat :: decodeLossy behind := by
  rw [decodeLossy, pieces_append small, pieces_ascii small, List.map_append, List.map_cons]
  rfl

end Retarget.Utf8
