/-
**The flag that keeps originals.**

Once the flag is read nothing takes it back. It is read where no token stands in front of it; behind
a token it is a token itself, as every argument there.

* `Arguments.ofList_eq_ok_iff`: a command line is read argument by argument, and settled at the end;
* `Arguments.State.step_keepFlag`: the flag outside of the tokens;
* `Arguments.keepOriginals_of_ofList`: a command line with the flag keeps originals.
-/

import Retarget.Proofs.Arguments.Reading

namespace Retarget.Arguments

/-- The flag as an argument. -/
def keepFlag : Bytes := Bytes.ofString "--keep-originals"

theorem ofList_eq_ok_iff {line : List Bytes} {arguments : Arguments} :
    ofList line = .ok arguments ↔ ∃ last settled, line.foldlM State.step {} = .ok last ∧
      last.settle = .ok settled ∧ settled.arguments = arguments := by
  unfold ofList
  cases read : line.foldlM State.step {} with
  | error stop => simp
  | ok last =>
    dsimp only
    rw [mapError_eq_ok_iff]
    constructor
    · intro ends
      obtain ⟨settled, settle, rfl⟩ := exists_of_map_eq_ok ends
      exact ⟨last, settled, rfl, settle, rfl⟩
    · rintro ⟨last', settled, same, settle, rfl⟩
      cases same
      rw [settle]
      rfl

namespace State

variable {state settled next last : State} {argument : Bytes} {line : List Bytes}

/-! ### Nothing takes the flag back -/

theorem keepOriginals_of_settle (settle : state.settle = .ok settled)
    (kept : state.arguments.keepOriginals = true) : settled.arguments.keepOriginals = true := by
  unfold State.settle at settle
  split at settle
  · cases settle
    exact kept
  · obtain ⟨-, -, -, -, put⟩ := place_eq settle
    exact keepOriginals_of_put put kept

theorem keepOriginals_of_reads (reads : Reads state argument next)
    (kept : state.arguments.keepOriginals = true) : next.arguments.keepOriginals = true := by
  cases reads with
  | escape | token | value => exact kept
  | directory _ _ settle | firstToken _ _ settle | option _ _ settle =>
    exact (keepOriginals_of_settle settle kept :)
  | accept outside listed settle place =>
    obtain ⟨-, -, -, -, put⟩ := place_eq place
    exact keepOriginals_of_put put (keepOriginals_of_settle settle kept)

/-- **Once originals are kept** they are kept to the end of the command line. -/
theorem keepOriginals_of_foldlM (kept : state.arguments.keepOriginals = true)
    (read : line.foldlM step state = .ok last) : last.arguments.keepOriginals = true :=
  foldlM_induction (motive := fun state => state.arguments.keepOriginals = true) kept
    (fun _ _ _ _ kept reads => keepOriginals_of_reads reads kept) read

/-! ### Reading the flag -/

/-- **The flag outside of the tokens** is read as the flag. -/
theorem step_keepFlag (outside : state.inTokens = false) (plain : state.escaped = false) :
    state.step keepFlag = orStop (state.accept .keepOriginals []) := by
  have written : keepFlag = longForm .keepOriginals none := by decide
  rw [written, step_longForm outside plain (by decide)]
  rfl

theorem keepOriginals_of_step (outside : state.inTokens = false) (plain : state.escaped = false)
    (read : state.step keepFlag = .ok next) : next.arguments.keepOriginals = true := by
  rw [step_keepFlag outside plain, orStop_eq_ok_iff] at read
  obtain ⟨settled, -, place⟩ := exists_of_bind_eq_ok read
  obtain ⟨-, -, -, -, put⟩ := place_eq place
  rw [← Except.ok.inj put]

/-! ### Tokens in front of the flag -/

/-- Texts that are read of some values are as many. -/
theorem length_of_mapM {values : List Bytes} {texts : List String}
    (read : values.mapM textOf = .ok texts) : texts.length = values.length := by
  induction values generalizing texts with
  | nil =>
    cases read
    rfl
  | cons value rest ih =>
    rw [List.mapM_cons] at read
    obtain ⟨text, -, read⟩ := exists_of_bind_eq_ok read
    obtain ⟨others, behind, read⟩ := exists_of_bind_eq_ok read
    cases read
    rw [List.length_cons, List.length_cons, ih behind]

/-- **Tokens that are pending** are put in their place when all of them are texts. -/
theorem settle_tokens {tokens : List Bytes} (pending : state.pending = some (.ignore, tokens)) :
    state.settle =
      if .ignore ∈ state.given then .error (.repeated .ignore)
      else (tokens.mapM textOf).map fun texts =>
        { state with
          arguments := { state.arguments with ignore := texts }
          given := state.given ++ [.ignore]
          pending := none } := by
  rw [State.settle, pending]
  dsimp only
  rw [place, if_neg (by simp [Parameter.takesValue])]
  split
  · rfl
  · cases tokens with
    | nil => rfl
    | cons token rest =>
      rw [Arguments.put]
      cases (token :: rest).mapM textOf <;> rfl

/-- A command line that goes on behind its tokens could also end there. -/
theorem ofList_of_tokens {front back : List Bytes} {tokens : List Bytes} {given : Arguments}
    (read : front.foldlM step {} = .ok state) (pending : state.pending = some (.ignore, tokens))
    (whole : ofList (front ++ back) = .ok given) :
    ∃ earlier, ofList front = .ok earlier ∧ earlier.ignore ≠ [] := by
  obtain ⟨last, settled, all, settle, -⟩ := ofList_eq_ok_iff.mp whole
  obtain ⟨middle, first, second⟩ := foldlM_append_eq_ok all
  rw [read, Except.ok.injEq] at first
  subst first
  rw [foldlM_tokens pending, Except.ok.injEq] at second
  subst second
  rw [settle_tokens rfl] at settle
  dsimp only at settle
  by_cases repeated : .ignore ∈ state.given
  · rw [if_pos repeated] at settle
    cases settle
  · rw [if_neg repeated] at settle
    obtain ⟨texts, spelled, -⟩ := exists_of_map_eq_ok settle
    rw [List.mapM_append] at spelled
    obtain ⟨before, spelled, -⟩ := exists_of_bind_eq_ok spelled
    have ends : state.settle = _ := settle_tokens pending
    rw [if_neg repeated, spelled] at ends
    refine ⟨_, ofList_eq_ok_iff.mpr ⟨state, _, read, ends, rfl⟩, ?_⟩
    intro none
    have long := length_of_mapM spelled
    dsimp only at none
    rw [none] at long
    exact (sound_of_foldlM read).tokens tokens pending (List.length_eq_zero_iff.mp long.symm)

end State

/-- **A command line with the flag keeps originals**, when no `--` and no token stands in front of
it. -/
theorem keepOriginals_of_ofList {front back : List Bytes} {given : Arguments}
    (plain : [0x2D, 0x2D] ∉ front)
    (bare : ∀ earlier, ofList front = .ok earlier → earlier.ignore = [])
    (read : ofList (front ++ keepFlag :: back) = .ok given) : given.keepOriginals = true := by
  obtain ⟨last, settled, all, settle, rfl⟩ := ofList_eq_ok_iff.mp read
  obtain ⟨middle, first, second⟩ := State.foldlM_append_eq_ok all
  have outside : middle.inTokens = false := by
    unfold State.inTokens
    split
    · next tokens pending =>
      obtain ⟨earlier, ends, some_⟩ := State.ofList_of_tokens first pending read
      exact absurd (bare earlier ends) some_
    · rfl
  rw [List.foldlM_cons] at second
  obtain ⟨next, stepped, rest⟩ := exists_of_bind_eq_ok second
  have kept := State.keepOriginals_of_step outside (State.escaped_of_foldlM plain first) stepped
  exact State.keepOriginals_of_settle settle (State.keepOriginals_of_foldlM kept rest)

end Retarget.Arguments
