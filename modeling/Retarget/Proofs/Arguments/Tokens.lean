/-
**Behind the first token.**

A command line has tokens when the reader ends among them: what is pending at the end is a list of
tokens, for before they start none are in their place. From there on no argument is looked at, so
whatever follows is one more token: also `--`, a request for help, and the name of a parameter.

* `Arguments.State.exists_tokens_of_ofList`: a command line with tokens ends among them;
* `Arguments.State.settle_more_tokens`: tokens that are pending, and more of them;
* `Arguments.ofList_append_tokens`: a command line with tokens goes on with tokens.
-/

import Mathlib
import Retarget.Proofs.Arguments.Writing

namespace Retarget.Arguments

section Tokens

variable {line : List Bytes} {given : Arguments}

namespace State

variable {state settled : State} {tokens : List Bytes}

/-- **A command line with tokens** ends among them. -/
theorem exists_tokens_of_ofList (read : ofList line = .ok given) (filled : given.ignore ≠ []) :
    ∃ last settled tokens, line.foldlM step {} = .ok last ∧
      last.pending = some (.ignore, tokens) ∧ last.settle = .ok settled ∧
      settled.arguments = given := by
  obtain ⟨last, settled, all, settle, rfl⟩ := ofList_eq_ok_iff.mp read
  cases inside : last.inTokens with
  | false => exact absurd ((sound_of_foldlM all).settle inside settle) filled
  | true =>
    unfold inTokens at inside
    split at inside
    · next tokens pending => exact ⟨last, settled, tokens, all, pending, settle, rfl⟩
    · cases inside

/-- **Tokens that are pending** are put in their place, and more of them with them. -/
theorem settle_more_tokens (pending : state.pending = some (.ignore, tokens))
    (settle : state.settle = .ok settled) (more : List String) :
    { state with pending := some (.ignore, tokens ++ more.map Bytes.ofString) }.settle =
      .ok { settled with
        arguments := { settled.arguments with ignore := settled.arguments.ignore ++ more } } := by
  rw [settle_tokens pending] at settle
  by_cases repeated : .ignore ∈ state.given
  · rw [if_pos repeated] at settle
    cases settle
  · rw [if_neg repeated] at settle
    obtain ⟨texts, spelled, rfl⟩ := exists_of_map_eq_ok settle
    have spells : (tokens ++ more.map Bytes.ofString).mapM textOf = .ok (texts ++ more) := by
      rw [List.mapM_append, spelled, mapM_textOf]
      rfl
    rw [settle_tokens rfl]
    dsimp only
    rw [if_neg repeated, spells]
    rfl

end State

/-- **A command line with tokens goes on with tokens.** Whatever arguments follow it, they are read
as they are, and nothing else changes. -/
theorem ofList_append_tokens (read : ofList line = .ok given) (filled : given.ignore ≠ [])
    (more : List String) :
    ofList (line ++ more.map Bytes.ofString) =
      .ok { given with ignore := given.ignore ++ more } := by
  obtain ⟨last, settled, tokens, all, pending, settle, rfl⟩ :=
    State.exists_tokens_of_ofList read filled
  refine ofList_eq_ok_iff.mpr ⟨_, _, ?_, State.settle_more_tokens pending settle more, rfl⟩
  rw [List.foldlM_append, all]
  exact State.foldlM_tokens pending _

end Tokens

namespace Continued

/-- A directory, a flag, and a token that looks like an option. -/
def line : List Bytes := ["src", "--strict", "-legacy"].map Bytes.ofString

def given : Arguments := { directory := some "src", ignore := ["-legacy"], strict := true }

/-- Arguments that mean something else, or nothing, in front of the tokens. -/
def more : List String := ["--", "--help", "--strict", "--max-concurrency", "-c", "--unknown", ""]

end Continued

/-- Behind a token `--`, a request for help, a flag that was given, options without their values, an
unknown name and an empty argument are tokens. -/
theorem ofList_append_tokens_continued :
    ofList (Continued.line ++ Continued.more.map Bytes.ofString) =
      .ok { Continued.given with ignore := Continued.given.ignore ++ Continued.more } := by
  have read : ofList Continued.line = .ok Continued.given := by cbv
  exact ofList_append_tokens read (by decide) Continued.more

end Retarget.Arguments
