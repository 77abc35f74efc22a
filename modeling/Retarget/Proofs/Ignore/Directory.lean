/-
**Excluded directories.**

Only files are asked whether a token excludes them. A token that excludes the path of a directory
excludes every path below it too: it stands in front of a `/` there, whether it did so before or
ended the path of the directory. One kind of path is apart, a root that is written with a `/` at its
end: a token that ends in `/` as well may be that path, or end it, and has no `/` behind it below.

* `hasStretch_iff`: a stretch is an infix;
* `Ignore.tokenExcludes_iff`: when one token excludes a path;
* `Ignore.tokenExcludes_opened`: what lies below an excluded directory is excluded.
-/

import Mathlib.Data.List.Infix
import Retarget.Ignore
import Retarget.Proofs.Path.Front
import Retarget.Proofs.Text.Utf8

namespace Retarget

theorem hasStretch_iff {α : Type} [BEq α] [LawfulBEq α] {word list : List α} :
    hasStretch word list = true ↔ word <:+: list := by
  induction list with
  | nil => simp [hasStretch]
  | cons a rest ih =>
    rw [hasStretch, Bool.or_eq_true, ih, List.isPrefixOf_iff_prefix, List.infix_cons_iff]

namespace Ignore

variable {token directory outer rest : List Char}

/-- **When a token excludes a path**: it stands in front of a `/`, it ends the path behind a `/`, or
it is the path. -/
theorem tokenExcludes_iff {path : List Char} :
    tokenExcludes token path = true ↔
      token ++ ['/'] <:+: path ∨ '/' :: token <:+ path ∨ path = token := by
  simp only [tokenExcludes, Bool.or_eq_true, hasStretch_iff, List.isSuffixOf_iff_suffix, beq_iff_eq,
    or_assoc]
  constructor
  · rintro (inside | other)
    · exact .inl ((List.suffix_cons '/' (token ++ ['/'])).isInfix.trans inside)
    · exact other
  · exact .inr

/-- What lies below an excluded directory. -/
theorem tokenExcludes_append_slash (excluded : tokenExcludes token directory = true) :
    tokenExcludes token (directory ++ '/' :: rest) = true := by
  refine tokenExcludes_iff.mpr (.inl ?_)
  have below : directory ++ ['/'] <:+: directory ++ '/' :: rest := ⟨[], rest, by simp⟩
  rcases tokenExcludes_iff.mp excluded with inside | ⟨before, rfl⟩ | rfl
  · exact (inside.trans (List.prefix_append _ _).isInfix).trans below
  · exact List.IsInfix.trans ⟨before ++ ['/'], [], by simp⟩ below
  · exact below

/-- What lies below an excluded path that ends in `/`, when the token does not end so. -/
theorem tokenExcludes_append (excluded : tokenExcludes token (outer ++ ['/']) = true)
    (unslashed : token.getLast? ≠ some '/') :
    tokenExcludes token (outer ++ '/' :: rest) = true := by
  have below : outer ++ ['/'] <:+: outer ++ '/' :: rest := ⟨[], rest, by simp⟩
  refine tokenExcludes_iff.mpr (.inl ?_)
  rcases tokenExcludes_iff.mp excluded with inside | ⟨before, ends⟩ | ends
  · exact inside.trans below
  · -- The path ends in `/`, so the token that ends it is empty.
    cases token using List.reverseRecOn with
    | nil => exact List.IsInfix.trans ⟨outer, [], by simp⟩ below
    | append_singleton init last =>
      have slashed : last = '/' := by
        simpa [List.getLast?_cons] using congrArg List.getLast? ends
      exact absurd (by simp [slashed]) unslashed
  · exact absurd (by rw [← ends]; simp) unslashed

/-- **What lies below an excluded directory** is excluded. -/
theorem tokenExcludes_opened {path : Path} (nonempty : path ≠ [])
    (excluded : tokenExcludes token (Utf8.decodeLossy path) = true)
    (unslashed : path.getLast? = some Path.slash → token.getLast? ≠ some '/') (behind : Path) :
    tokenExcludes token (Utf8.decodeLossy (path.opened ++ behind)) = true := by
  have small : Path.slash < 0x80 := by decide
  by_cases slashed : path.getLast? = some Path.slash
  · obtain ⟨outer, rfl⟩ := List.getLast?_eq_some_iff.mp slashed
    rw [Utf8.decodeLossy_append small] at excluded
    rw [Path.opened, if_pos (.inr slashed), List.append_assoc, List.singleton_append,
      Utf8.decodeLossy_append small]
    exact tokenExcludes_append excluded (unslashed slashed)
  · rw [Path.opened, if_neg (by simp [nonempty, slashed]), List.append_assoc,
      List.singleton_append, Utf8.decodeLossy_append small]
    exact tokenExcludes_append_slash excluded

end Ignore

end Retarget
