/-
**What reading an argument does.**

An argument that is read without a fault does one of seven things to the state of the reader. All
that holds of the states of a command line is proved by going through them.

* `State.Reads`: the seven things;
* `State.reads_of_step`: an argument that is read does one of them;
* `State.step_longForm`: the name of a parameter, perhaps with a value, is read by that name;
* `State.foldlM_tokens`: behind the first token every argument is one more token;
* `State.Sound` and `State.sound_of_foldlM`: what holds of every state.
-/

import Retarget.Arguments.Reader
import Retarget.Proofs.Text.Encoding

namespace Retarget

/-! ### Reading in two parts -/

theorem exists_of_map_eq_ok {ε α β : Type} {read : Except ε α} {f : α → β} {b : β}
    (mapped : read.map f = .ok b) : ∃ a, read = .ok a ∧ b = f a := by
  cases read with
  | error error => cases mapped
  | ok a =>
    cases mapped
    exact ⟨a, rfl, rfl⟩

theorem exists_of_bind_eq_ok {ε α β : Type} {read : Except ε α} {f : α → Except ε β} {b : β}
    (bound : read >>= f = .ok b) : ∃ a, read = .ok a ∧ f a = .ok b := by
  cases read with
  | error error => cases bound
  | ok a => exact ⟨a, rfl, bound⟩

theorem mapError_eq_ok_iff {ε ε' α : Type} {read : Except ε α} {f : ε → ε'} {a : α} :
    read.mapError f = .ok a ↔ read = .ok a := by
  cases read with
  | error error => exact ⟨nofun, nofun⟩
  | ok b =>
    constructor
    · intro same
      cases same
      rfl
    · intro same
      cases same
      rfl

/-! ### An argument -/

namespace Arguments

/-- `--`. -/
def dashes : Bytes := [0x2D, 0x2D]

/-- A parameter by its name, with a value behind a `=` if there is one. -/
def longForm (parameter : Parameter) (value : Option Bytes) : Bytes :=
  dashes ++ Bytes.ofString parameter.name ++ (value.map (0x3D :: ·)).getD []

end Arguments

namespace Arguments.State

variable {state settled next : State} {argument : Bytes} {parameter : Parameter}

/-- What reading an argument does to the state. -/
inductive Reads (state : State) (argument : Bytes) : State → Prop
  /-- All arguments that follow are values. -/
  | escape (outside : state.inTokens = false) (plain : state.escaped = false)
      (dashes : argument = [0x2D, 0x2D]) : Reads state argument { state with escaped := true }
  /-- The argument is one more token. -/
  | token {tokens : List Bytes} (pending : state.pending = some (.ignore, tokens)) :
      Reads state argument { state with pending := some (.ignore, tokens ++ [argument]) }
  /-- The argument is the value of the option in front of it. -/
  | value {option : Parameter} (awaits : state.pending = some (option, []))
      (takes : option.takesValue = true) (plain : state.escaped = false) :
      Reads state argument { state with pending := some (option, [argument]) }
  /-- The argument is the directory. -/
  | directory {settled : State} (outside : state.inTokens = false) (first : state.located = false)
      (settle : state.settle = .ok settled) :
      Reads state argument
        { settled with pending := some (.directory, [argument]), located := true }
  /-- The argument is the first token. -/
  | firstToken {settled : State} (outside : state.inTokens = false) (behind : state.located = true)
      (settle : state.settle = .ok settled) :
      Reads state argument { settled with pending := some (.ignore, [argument]) }
  /-- The argument names an option, and its value follows. -/
  | option {settled : State} {option : Parameter} (outside : state.inTokens = false)
      (takes : option.takesValue = true) (settle : state.settle = .ok settled) :
      Reads state argument { settled with pending := some (option, []) }
  /-- The argument names a parameter and holds its value, if it takes one. -/
  | accept {settled next : State} {parameter : Parameter} {values : List Bytes}
      (outside : state.inTokens = false) (listed : parameter ∈ Parameter.named)
      (settle : state.settle = .ok settled) (place : settled.place parameter values = .ok next) :
      Reads state argument next

theorem orStop_eq_ok_iff {read : Except Fault State} : orStop read = .ok next ↔ read = .ok next :=
  mapError_eq_ok_iff

/-- A parameter in its place changes neither what is pending nor where the reader is. -/
theorem place_eq {values : List Bytes} (place : state.place parameter values = .ok next) :
    next.pending = state.pending ∧ next.located = state.located ∧ next.escaped = state.escaped ∧
      next.given = state.given ++ [parameter] ∧
      state.arguments.put parameter values = .ok next.arguments := by
  unfold State.place at place
  split at place
  · cases place
  · split at place
    · cases place
    · obtain ⟨arguments, put, rfl⟩ := exists_of_map_eq_ok place
      exact ⟨rfl, rfl, rfl, rfl, put⟩

/-- Putting what is pending in its place changes nothing else about where the reader is. -/
theorem settle_eq (settle : state.settle = .ok settled) :
    settled.pending = none ∧ settled.located = state.located ∧ settled.escaped = state.escaped := by
  unfold State.settle at settle
  cases pending : state.pending with
  | none =>
    simp only [pending, Except.ok.injEq] at settle
    subst settle
    exact ⟨pending, rfl, rfl⟩
  | some entry =>
    simp only [pending] at settle
    obtain ⟨idle, located, escaped, -⟩ := place_eq settle
    exact ⟨idle, located, escaped⟩

/-! ### The readers of one argument -/

theorem reads_of_value (read : state.value argument = .ok next) : Reads state argument next := by
  unfold State.value at read
  split at read
  · next tokens pending =>
    cases read
    exact .token pending
  · next pending plain =>
    cases read
    exact .value pending rfl plain
  · next pending plain =>
    cases read
    exact .value pending rfl plain
  · next others _ _ =>
    have outside : state.inTokens = false := by
      unfold inTokens
      split
      · next tokens pending => exact absurd pending (others tokens)
      · rfl
    split at read
    · next behind =>
      obtain ⟨settled, settle, rfl⟩ := exists_of_map_eq_ok read
      exact .firstToken outside behind settle
    · next first =>
      obtain ⟨started, start, rfl⟩ := exists_of_map_eq_ok read
      obtain ⟨settled, settle, rfl⟩ := exists_of_map_eq_ok start
      show Reads state argument
        { settled with pending := some (.directory, [argument]), located := true }
      exact .directory outside (by simpa using first) settle

theorem reads_of_named {attached : Option Bytes} (outside : state.inTokens = false)
    (listed : parameter ∈ Parameter.named) (read : state.named parameter attached = .ok next) :
    Reads state argument next := by
  have requested : ∀ stop, state.request stop ≠ .ok next := by
    intro stop ended
    unfold request at ended
    split at ended <;> cases ended
  unfold State.named at read
  split at read
  · split at read
    · obtain ⟨settled, settle, place⟩ := exists_of_bind_eq_ok (orStop_eq_ok_iff.mp read)
      exact .accept outside listed settle place
    · cases read
  · split at read
    · next takes =>
      obtain ⟨settled, settle, rfl⟩ := exists_of_map_eq_ok (orStop_eq_ok_iff.mp read)
      exact .option outside takes settle
    · split at read
      · exact absurd read (requested .help)
      · exact absurd read (requested .version)
      · obtain ⟨settled, settle, place⟩ := exists_of_bind_eq_ok (orStop_eq_ok_iff.mp read)
        exact .accept outside listed settle place

theorem reads_of_long (outside : state.inTokens = false) (read : state.long argument = .ok next) :
    Reads state argument next := by
  unfold State.long at read
  dsimp only at read
  split at read
  · cases read
  · split at read
    · next text _ parameter found =>
      exact reads_of_named outside (List.mem_of_find?_eq_some found) read
    · split at read
      · exact reads_of_value (orStop_eq_ok_iff.mp read)
      · cases read

theorem ofLetter?_mem_named {letter : Char} (found : Parameter.ofLetter? letter = some parameter) :
    parameter ∈ Parameter.named := by
  unfold Parameter.ofLetter? at found
  split at found <;> cases found <;> decide

theorem reads_of_short (outside : state.inTokens = false) (read : state.short argument = .ok next) :
    Reads state argument next := by
  unfold State.short at read
  dsimp only at read
  split at read
  · exact reads_of_value (orStop_eq_ok_iff.mp read)
  · split at read
    · exact reads_of_value (orStop_eq_ok_iff.mp read)
    · split at read
      · cases read
      · next parameter known =>
        have listed : parameter ∈ Parameter.named := by
          split at known
          · exact ofLetter?_mem_named known
          · cases known
        split at read
        · exact reads_of_named outside listed read
        · split at read <;> exact reads_of_named outside listed read

/-- **An argument that is read** does one of the seven things. -/
theorem reads_of_step (read : state.step argument = .ok next) : Reads state argument next := by
  unfold State.step at read
  split at read
  · exact reads_of_value (orStop_eq_ok_iff.mp read)
  · next open_ =>
    simp only [not_or, Bool.not_eq_true] at open_
    obtain ⟨plain, outside⟩ := open_
    split at read
    · cases read
      exact .escape outside plain rfl
    · exact reads_of_long outside read
    · exact reads_of_short outside read
    · exact reads_of_value (orStop_eq_ok_iff.mp read)

/-- **An argument that is the name of a parameter**, perhaps with a value, is read by that name. -/
theorem step_longForm (outside : state.inTokens = false) (plain : state.escaped = false)
    (listed : parameter ∈ Parameter.named) (value : Option Bytes) :
    state.step (longForm parameter value) = state.named parameter value := by
  have whole : ∀ parameter ∈ Parameter.named, Bytes.ofString parameter.name ≠ [] ∧
      0x3D ∉ Bytes.ofString parameter.name ∧ Parameter.ofName? parameter.name = some parameter := by
    decide
  obtain ⟨nonempty, unsplit, known⟩ := whole parameter listed
  obtain ⟨first, rest, name⟩ := List.exists_cons_of_ne_nil nonempty
  have long : state.step (longForm parameter value) = state.long (longForm parameter value) := by
    rw [step.eq_def, if_neg (by simp [plain, outside]), longForm, name]
    rfl
  have body : (longForm parameter value).drop 2 =
      Bytes.ofString parameter.name ++ (value.map (0x3D :: ·)).getD [] := rfl
  have keeps : ∀ byte ∈ Bytes.ofString parameter.name, (byte != 0x3D) = true := by
    intro byte inside
    simp only [bne_iff_ne, ne_eq]
    rintro rfl
    exact unsplit inside
  rw [long, State.long, body, List.takeWhile_append_of_pos keeps]
  cases value with
  | none => simp [Bytes.toString?_ofString, known]
  | some value => simp [Bytes.toString?_ofString, known]

/-! ### A command line -/

variable {last : State} {front back line : List Bytes}

/-- What every argument keeps holds behind all of them. -/
theorem foldlM_induction {motive : State → Prop} (start : motive state)
    (keeps : ∀ before argument after, argument ∈ line → motive before →
      Reads before argument after → motive after)
    (read : line.foldlM step state = .ok last) : motive last := by
  induction line generalizing state with
  | nil =>
    rw [List.foldlM_nil] at read
    cases read
    exact start
  | cons argument rest ih =>
    rw [List.foldlM_cons] at read
    obtain ⟨next, stepped, behind⟩ := exists_of_bind_eq_ok read
    refine ih (keeps _ _ _ List.mem_cons_self start (reads_of_step stepped)) ?_ behind
    exact fun before other after inside => keeps before other after (List.mem_cons_of_mem _ inside)

theorem foldlM_append_eq_ok (read : (front ++ back).foldlM step state = .ok last) :
    ∃ middle, front.foldlM step state = .ok middle ∧ back.foldlM step middle = .ok last := by
  rw [List.foldlM_append] at read
  exact exists_of_bind_eq_ok read

/-- **Behind the first token** every argument is one more token. -/
theorem foldlM_tokens {tokens : List Bytes} (pending : state.pending = some (.ignore, tokens))
    (line : List Bytes) :
    line.foldlM step state =
      .ok { state with pending := some (.ignore, tokens ++ line) } := by
  induction line generalizing state tokens with
  | nil =>
    rw [List.foldlM_nil, List.append_nil, ← pending]
    rfl
  | cons argument rest ih =>
    have stepped : state.step argument =
        .ok { state with pending := some (.ignore, tokens ++ [argument]) } := by
      rw [step.eq_def, if_pos (.inr (by rw [inTokens, pending])), orStop_eq_ok_iff, value, pending]
    rw [List.foldlM_cons, stepped]
    refine (ih rfl).trans ?_
    simp

/-! ### What holds of every state -/

/-- A parameter other than the tokens changes no tokens. -/
theorem ignore_of_put {arguments after : Arguments} {values : List Bytes}
    (put : arguments.put parameter values = .ok after) (other : parameter ≠ .ignore) :
    after.ignore = arguments.ignore := by
  unfold Arguments.put at put
  split at put
  case h_2 => exact absurd rfl other
  case h_3 =>
    split at put
    · cases put
    · cases put
      rfl
  case h_1 | h_4 =>
    obtain ⟨_, -, rfl⟩ := exists_of_map_eq_ok put
    rfl
  all_goals
    cases put
    rfl

/-- No parameter takes back that originals are kept. -/
theorem keepOriginals_of_put {arguments after : Arguments} {values : List Bytes}
    (put : arguments.put parameter values = .ok after) (kept : arguments.keepOriginals = true) :
    after.keepOriginals = true := by
  unfold Arguments.put at put
  split at put
  case h_3 =>
    split at put
    · cases put
    · cases put
      exact kept
  case h_1 | h_2 | h_4 =>
    obtain ⟨_, -, rfl⟩ := exists_of_map_eq_ok put
    exact kept
  case h_5 =>
    cases put
    rfl
  all_goals
    cases put
    exact kept

/-- What holds of every state: tokens that are pending are not none, and none are in their place. -/
structure Sound (state : State) : Prop where
  tokens : ∀ values, state.pending = some (.ignore, values) → values ≠ []
  unplaced : state.arguments.ignore = []

theorem Sound.settle (sound : Sound state) (outside : state.inTokens = false)
    (settle : state.settle = .ok settled) : settled.arguments.ignore = [] := by
  unfold State.settle at settle
  cases pending : state.pending with
  | none =>
    simp only [pending, Except.ok.injEq] at settle
    subst settle
    exact sound.unplaced
  | some entry =>
    obtain ⟨parameter, values⟩ := entry
    have other : parameter ≠ .ignore := by
      rintro rfl
      simp [inTokens, pending] at outside
    simp only [pending] at settle
    obtain ⟨-, -, -, -, put⟩ := place_eq settle
    rw [ignore_of_put put other]
    exact sound.unplaced

/-- **Every argument keeps what holds.** -/
theorem Sound.reads (sound : Sound state) (reads : Reads state argument next) : Sound next := by
  cases reads with
  | escape outside plain dashes => exact ⟨sound.tokens, sound.unplaced⟩
  | token pending =>
    refine ⟨fun values shape => ?_, sound.unplaced⟩
    obtain ⟨-, rfl⟩ := Prod.mk.inj (Option.some.inj shape)
    simp
  | value awaits takes plain =>
    refine ⟨fun values shape => ?_, sound.unplaced⟩
    obtain ⟨-, rfl⟩ := Prod.mk.inj (Option.some.inj shape)
    simp
  | directory outside first settle =>
    have unplaced := sound.settle outside settle
    exact ⟨by simp, unplaced⟩
  | firstToken outside behind settle =>
    have unplaced := sound.settle outside settle
    refine ⟨fun values shape => ?_, unplaced⟩
    obtain ⟨-, rfl⟩ := Prod.mk.inj (Option.some.inj shape)
    simp
  | option outside takes settle =>
    have unplaced := sound.settle outside settle
    refine ⟨fun values shape => ?_, unplaced⟩
    obtain ⟨rfl, rfl⟩ := Prod.mk.inj (Option.some.inj shape)
    cases takes
  | @accept settled next parameter values outside listed settle place =>
    obtain ⟨pending, -, -, -, put⟩ := place_eq place
    have other : parameter ≠ .ignore := by
      rintro rfl
      exact absurd listed (by decide)
    refine ⟨fun values shape => ?_, ?_⟩
    · rw [pending, (settle_eq settle).1] at shape
      cases shape
    · rw [ignore_of_put put other]
      exact sound.settle outside settle

/-- **Every state of a command line** is sound. -/
theorem sound_of_foldlM (read : line.foldlM step {} = .ok last) : Sound last :=
  foldlM_induction (motive := Sound) ⟨by simp, rfl⟩
    (fun _ _ _ _ sound reads => sound.reads reads) read

/-- Where no argument is `--`, no state is behind one. -/
theorem escaped_of_foldlM (plain : [0x2D, 0x2D] ∉ line) (read : line.foldlM step {} = .ok last) :
    last.escaped = false := by
  refine foldlM_induction (motive := fun state => state.escaped = false) rfl ?_ read
  intro before argument after inside open_ reads
  cases reads with
  | escape outside unescaped dashes => exact absurd (dashes ▸ inside) plain
  | token | value => exact open_
  | directory _ _ settle | firstToken _ _ settle | option _ _ settle =>
    exact (settle_eq settle).2.2.trans open_
  | accept outside listed settle place =>
    obtain ⟨-, -, escaped, -⟩ := place_eq place
    exact escaped.trans ((settle_eq settle).2.2.trans open_)

end Arguments.State

end Retarget
