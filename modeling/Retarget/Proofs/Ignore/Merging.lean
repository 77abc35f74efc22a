/-
**The tokens of a run.**

Tokens are merged one after another onto the default ones, and each one that is taken is new and not
empty. So the merged tokens start with the default ones, none is empty and none comes twice. What
was taken so far is at all times the first occurrences of the tokens that were read, in their order,
and the tokens to come meet it as they would meet all that was read: nothing is lost when merged
tokens are merged again, in front of other ones or on their own.

* `Ignore.IsTidy`: what holds of tokens that are merged;
* `Ignore.IsTidy.add`: one more token;
* `Ignore.isTidy_merge`: merged tokens;
* `Ignore.firsts` and `Ignore.foldl_add_firsts`: what is taken of the tokens that are read;
* `Ignore.firsts_append_firsts`: what is taken may be read in the place of what was read;
* `Ignore.merge_eq_eraseDups`: merging is dropping repetitions, and excludes what it did before.
-/

import Mathlib.Data.List.Induction
import Retarget.Ignore

namespace Retarget.Ignore

/-- Whether tokens start with the default ones and hold no empty token and none twice. -/
structure IsTidy (tokens : List String) : Prop where
  defaults : defaultTokens <+: tokens
  filled : "" ∉ tokens
  distinct : tokens.Nodup

variable {tokens : List String}

theorem isTidy_defaultTokens : IsTidy defaultTokens := ⟨List.prefix_rfl, by decide, by decide⟩

/-- **One more token** is left out or is put behind the others. -/
theorem IsTidy.add (tidy : IsTidy tokens) (token : String) : IsTidy (Ignore.add tokens token) := by
  unfold Ignore.add
  split
  · exact tidy
  · next fresh =>
    rw [not_or] at fresh
    refine ⟨tidy.defaults.trans (List.prefix_append _ _), ?_, ?_⟩
    · simpa using ⟨tidy.filled, fresh.1⟩
    · refine List.nodup_append.mpr ⟨tidy.distinct, by simp, ?_⟩
      rintro other inside _ last rfl
      exact fresh.2 (List.mem_singleton.mp last ▸ inside)

theorem IsTidy.foldl_add (tidy : IsTidy tokens) (extra : List String) :
    IsTidy (extra.foldl Ignore.add tokens) := by
  induction extra generalizing tokens with
  | nil => exact tidy
  | cons token rest ih => exact ih (tidy.add token)

/-- **Merged tokens** start with the default ones, and none is empty and none comes twice. -/
theorem isTidy_merge (extra : List String) : IsTidy (merge extra) :=
  isTidy_defaultTokens.foldl_add extra

/-! ### First occurrences -/

/-- The first occurrences of the tokens that are not empty, in their order. -/
def firsts (tokens : List String) : List String := (tokens.filter (· ≠ "")).eraseDups

@[simp] theorem mem_firsts {token : String} :
    token ∈ firsts tokens ↔ token ∈ tokens ∧ token ≠ "" := by
  simp [firsts]

/-- **One more token** is taken when it is a first occurrence. -/
theorem add_firsts (tokens : List String) (token : String) :
    add (firsts tokens) token = firsts (tokens ++ [token]) := by
  have split : firsts (tokens ++ [token]) = firsts tokens ++
      (([token].filter (· ≠ "")).removeAll (tokens.filter (· ≠ ""))).eraseDups := by
    rw [firsts, List.filter_append, List.eraseDups_append, firsts]
  rw [split, add]
  by_cases empty : token = ""
  · simp [empty]
  · by_cases old : token ∈ tokens
    · simp [List.removeAll, empty, old]
    · simp [List.removeAll, List.eraseDups_cons, empty, old]

/-- **What is taken of tokens** that are read one after another, onto what was taken before. -/
theorem foldl_add_firsts (tokens extra : List String) :
    extra.foldl add (firsts tokens) = firsts (tokens ++ extra) := by
  induction extra generalizing tokens with
  | nil => simp
  | cons token rest ih =>
    rw [List.foldl_cons, add_firsts, ih, List.append_assoc, List.singleton_append]

/-- A token that was read or is empty adds nothing. -/
theorem firsts_append_of_idle {token : String} (idle : token = "" ∨ token ∈ tokens) :
    firsts (tokens ++ [token]) = firsts tokens := by
  rw [← add_firsts, add, if_pos]
  by_cases empty : token = ""
  · exact .inl empty
  · exact .inr (mem_firsts.mpr ⟨idle.resolve_left empty, empty⟩)

/-- **What is taken of tokens** may be read in their place, whatever was read before. -/
theorem firsts_append_firsts (before tokens : List String) :
    firsts (before ++ firsts tokens) = firsts (before ++ tokens) := by
  induction tokens using List.reverseRecOn with
  | nil => rfl
  | append_singleton tokens token ih =>
    by_cases idle : token = "" ∨ token ∈ tokens
    · have idle' : token = "" ∨ token ∈ before ++ tokens := idle.imp id (List.mem_append_right _)
      rw [firsts_append_of_idle idle, ih, ← List.append_assoc, firsts_append_of_idle idle']
    · have fresh : ¬ (token = "" ∨ token ∈ firsts tokens) := by
        rw [mem_firsts]
        exact fun taken => idle (taken.imp id And.left)
      rw [← add_firsts, add, if_neg fresh, ← List.append_assoc, ← add_firsts, ih, add_firsts,
        List.append_assoc]

/-- **Merging** takes the first occurrences behind the default tokens. -/
theorem merge_eq_firsts (extra : List String) : merge extra = firsts (defaultTokens ++ extra) := by
  have defaults : firsts defaultTokens = defaultTokens := by decide
  rw [← foldl_add_firsts, defaults, merge]

/-- **Merging twice** is merging once: the default tokens are met again, and all others are read in
the place of what they were taken from. -/
theorem merge_merge (extra : List String) : merge (merge extra) = merge extra := by
  have again : firsts (defaultTokens ++ defaultTokens) = firsts defaultTokens := by decide
  calc merge (merge extra)
      = firsts (defaultTokens ++ firsts (defaultTokens ++ extra)) := by
        rw [merge_eq_firsts, merge_eq_firsts]
    _ = firsts ((defaultTokens ++ defaultTokens) ++ extra) := by
        rw [firsts_append_firsts, List.append_assoc]
    _ = extra.foldl add (firsts defaultTokens) := by rw [← foldl_add_firsts, again]
    _ = merge extra := by rw [foldl_add_firsts, merge_eq_firsts]

/-- **Merged tokens may be merged on** with others behind them. -/
theorem merge_append (front back : List String) :
    merge (front ++ back) = back.foldl add (merge front) := by
  rw [merge, merge, List.foldl_append]

/-- Whether tokens exclude a path does not depend on their order, nor on how often one is there. -/
theorem excludes_congr {tokens' : List String} (same : ∀ token, token ∈ tokens ↔ token ∈ tokens')
    (path : List Char) : excludes tokens path = excludes tokens' path := by
  rw [Bool.eq_iff_iff]
  simp only [excludes, List.any_eq_true, same]

/-- **Merging drops repetitions and empty tokens**, and nothing else. Merged tokens are the first
occurrences of the tokens that are not empty, the default ones in front; they stay as they are when
they are merged again, and may stand for the tokens that they were merged from when more tokens
follow. They exclude the paths that all these tokens exclude. -/
theorem merge_eq_eraseDups :
    (∀ extra, merge extra = ((defaultTokens ++ extra).filter (· ≠ "")).eraseDups) ∧
    (∀ extra, merge (merge extra) = merge extra) ∧
    (∀ front back, merge (front ++ back) = merge (merge front ++ back)) ∧
    ∀ extra path,
      excludes (merge extra) path = excludes (defaultTokens ++ extra.filter (· ≠ "")) path := by
  refine ⟨merge_eq_firsts, merge_merge, fun front back => ?_, fun extra path => ?_⟩
  · rw [merge_append, merge_append, merge_merge]
  · have filled : ∀ token ∈ defaultTokens, token ≠ "" := by decide
    refine excludes_congr (fun token => ?_) path
    rw [merge_eq_firsts, mem_firsts, List.mem_append, List.mem_append, List.mem_filter,
      decide_eq_true_eq, or_and_right, and_iff_left_of_imp (filled token)]

/-- A repetition is dropped where it stands, and an empty token anywhere. -/
example : merge ["dist", "", "vendor", "out", "vendor"] =
    ["node_modules", "dist", "build", "out", "vendor"] := by decide

end Retarget.Ignore
