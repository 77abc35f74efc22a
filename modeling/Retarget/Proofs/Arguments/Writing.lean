/-
**A command line written and read back.**

What a command line may set, apart from the tokens, is written as one argument each: the directory
as it is, a flag by its name, and an option by its name with its value behind a `=`. Reading one of
them puts its value in its place and looks at nothing that was read before, except that the
directory waits in front of the next argument. So they may come in any order, when none comes twice.
Behind `--` all arguments are tokens, whatever they look like.

* `Count.parse_toString`: a count is read back from its digits;
* `Arguments.Setting` and `Arguments.settings`: what is set, one by one;
* `Arguments.State.HasRead`: what a state has read so far;
* `Arguments.State.HasRead.step` and `Arguments.State.HasRead.run`: one more setting, and many;
* `Arguments.State.HasRead.ends`: the tokens;
* `Arguments.ofList_written`: a command line is read back.
-/

import Retarget.Proofs.Arguments.KeepOriginals
import Retarget.Proofs.Text.Utf8

namespace Retarget

/-! ### Counts -/

namespace Count

theorem digits_cons (value : Nat) (c : Char) (rest : List Char) : digits value (c :: rest) =
    if '0' ≤ c ∧ c ≤ '9' then
      if value * 10 + (c.toNat - 48) < 2 ^ 64 then digits (value * 10 + (c.toNat - 48)) rest
      else .error .tooLarge
    else .error .notDigit :=
  rfl

/-- Digits are read as a number, when that fits. -/
theorem digits_eq_ok {text : List Char} (digit : ∀ c ∈ text, c.isDigit = true) (value : Nat)
    (fits : Nat.ofDigitChars 10 text value < 2 ^ 64) :
    digits value text = .ok (Nat.ofDigitChars 10 text value) := by
  induction text generalizing value with
  | nil => rfl
  | cons c rest ih =>
    have range : '0' ≤ c ∧ c ≤ '9' := by
      simpa [Char.isDigit, Char.le_def] using digit c List.mem_cons_self
    have next : Nat.ofDigitChars 10 (c :: rest) value =
        Nat.ofDigitChars 10 rest (value * 10 + (c.toNat - 48)) := by
      rw [Nat.ofDigitChars_cons, Nat.mul_comm]
      rfl
    -- A value only grows with the digits that follow.
    have grows : value * 10 + (c.toNat - 48) ≤ Nat.ofDigitChars 10 (c :: rest) value := by
      rw [next, Nat.ofDigitChars_eq_ofDigitChars_zero]
      exact (Nat.le_mul_of_pos_left _ (Nat.pow_pos (by decide))).trans (Nat.le_add_right _ _)
    rw [digits_cons, if_pos range, if_pos (grows.trans_lt fits), next]
    exact ih (fun c inside => digit c (List.mem_cons_of_mem _ inside)) _ (next ▸ fits)

/-- **A count is read back** from its digits. -/
theorem parse_toString {count : Nat} (fits : count < 2 ^ 64) :
    parse (toString count).toList = .ok count := by
  have text : (toString count).toList = Nat.toDigits 10 count := by
    rw [Nat.toString_eq_repr, Nat.toList_repr]
  have digit : ∀ c ∈ Nat.toDigits 10 count, c.isDigit = true :=
    fun c inside => Nat.isDigit_of_mem_toDigits (by decide) (by decide) inside
  have read := digits_eq_ok digit 0 (by rwa [Nat.ofDigitChars_ten_toDigits])
  rw [Nat.ofDigitChars_ten_toDigits] at read
  rw [text, ← read]
  cases shape : Nat.toDigits 10 count with
  | nil => exact absurd shape Nat.toDigits_ne_nil
  | cons c rest =>
    have other : c ≠ '+' := by
      rintro rfl
      exact absurd (digit '+' (by simp [shape])) (by decide)
    rw [parse]
    · simp
    · intro same
      exact other (List.cons.inj same).1
    · intro rest' same
      exact other (List.cons.inj same).1

end Count

namespace Arguments

/-! ### Settings -/

/-- One thing that a command line sets, apart from the tokens. -/
inductive Setting where
  | directory (text : String)
  | config (path : Path)
  | keepOriginals
  | strict
  | maxConcurrency (count : Nat)
  | verbose
  deriving DecidableEq

namespace Setting

def parameter : Setting → Parameter
  | directory _ => .directory
  | config _ => .config
  | keepOriginals => .keepOriginals
  | strict => .strict
  | maxConcurrency _ => .maxConcurrency
  | verbose => .verbose

/-- The value that a setting is written with, if it has one. -/
def value? : Setting → Option Bytes
  | directory text => some (Bytes.ofString text)
  | config path => some path
  | maxConcurrency count => some (Bytes.ofString (toString count))
  | keepOriginals | strict | verbose => none

/-- The arguments with one thing set. -/
def apply (arguments : Arguments) : Setting → Arguments
  | directory text => { arguments with directory := some text }
  | config path => { arguments with config := some path }
  | keepOriginals => { arguments with keepOriginals := true }
  | strict => { arguments with strict := true }
  | maxConcurrency count => { arguments with maxConcurrency := some count }
  | verbose => { arguments with verbose := true }

/-- Whether a setting can be written: a directory does not look like an option, the path of the
settings file is not empty, and a count fits into 64 bits. -/
def IsWritable : Setting → Prop
  | directory text => (Bytes.ofString text).head? ≠ some 0x2D
  | config path => path ≠ []
  | maxConcurrency count => count < 2 ^ 64
  | keepOriginals | strict | verbose => True

end Setting

/-- A setting as one argument. -/
def Setting.written : Setting → Bytes
  | directory text => Bytes.ofString text
  | setting => longForm setting.parameter setting.value?

/-- What is set for a parameter of a run. -/
def settingOf? (arguments : Arguments) : Parameter → Option Setting
  | .directory => arguments.directory.map .directory
  | .config => arguments.config.map .config
  | .keepOriginals => if arguments.keepOriginals then some .keepOriginals else none
  | .strict => if arguments.strict then some .strict else none
  | .maxConcurrency => arguments.maxConcurrency.map .maxConcurrency
  | .verbose => if arguments.verbose then some .verbose else none
  | .ignore | .help | .version => none

/-- What is set, one by one. -/
def settings (arguments : Arguments) : List Setting := ofRun.filterMap arguments.settingOf?

/-- The settings as arguments, and the tokens behind `--`. -/
def written (order : List Setting) (tokens : List String) : List Bytes :=
  order.map Setting.written ++ dashes :: tokens.map Bytes.ofString

theorem parameter_of_settingOf? {arguments : Arguments} {parameter : Parameter} {setting : Setting}
    (set : arguments.settingOf? parameter = some setting) : setting.parameter = parameter := by
  cases parameter <;> simp only [settingOf?, Option.map_eq_some_iff, Option.ite_none_right_eq_some,
    Option.some.injEq, reduceCtorEq] at set
  case directory | config | maxConcurrency =>
    obtain ⟨_, -, rfl⟩ := set
    rfl
  case keepOriginals | strict | verbose =>
    obtain ⟨-, rfl⟩ := set
    rfl

theorem mem_settings_iff {arguments : Arguments} {setting : Setting} :
    setting ∈ arguments.settings ↔ arguments.settingOf? setting.parameter = some setting := by
  rw [settings, List.mem_filterMap]
  constructor
  · rintro ⟨parameter, -, set⟩
    rwa [parameter_of_settingOf? set]
  · intro set
    exact ⟨setting.parameter, by cases setting <;> simp [Setting.parameter, ofRun], set⟩

/-- **No two settings** are for one parameter. -/
theorem pairwise_settings (arguments : Arguments) :
    arguments.settings.Pairwise fun first second => first.parameter ≠ second.parameter := by
  have distinct : ofRun.Pairwise (· ≠ ·) := by decide
  refine List.pairwise_filterMap.mpr (distinct.imp ?_)
  intro parameter parameter' different first set second set'
  rwa [parameter_of_settingOf? set, parameter_of_settingOf? set']

/-- Settings for two parameters are put in their places in either order. -/
theorem Setting.apply_comm {first second : Setting} (different : first.parameter ≠ second.parameter)
    (arguments : Arguments) :
    second.apply (first.apply arguments) = first.apply (second.apply arguments) := by
  cases first <;> cases second <;> simp_all [Setting.apply, Setting.parameter]

theorem eq_of_parameter {arguments : Arguments} {first second : Setting}
    (inside : first ∈ arguments.settings) (inside' : second ∈ arguments.settings)
    (same : first.parameter = second.parameter) : first = second := by
  rw [mem_settings_iff] at inside inside'
  rw [same] at inside
  exact Option.some.inj (inside.symm.trans inside')

theorem foldl_apply_settings (arguments : Arguments) :
    arguments.settings.foldl Setting.apply {} = { arguments with ignore := [] } := by
  obtain ⟨directory, ignore, config, keepOriginals, strict, maxConcurrency, verbose⟩ := arguments
  rw [settings, List.foldl_filterMap]
  cases directory <;> cases config <;> cases keepOriginals <;> cases strict <;>
    cases maxConcurrency <;> cases verbose <;> rfl

/-- **Settings in any order** make up the arguments without the tokens. -/
theorem foldl_apply_perm {arguments : Arguments} {order : List Setting}
    (perm : order.Perm arguments.settings) :
    order.foldl Setting.apply {} = { arguments with ignore := [] } := by
  rw [← foldl_apply_settings]
  refine perm.foldl_eq' (fun first inside second inside' set => ?_) _
  by_cases same : first.parameter = second.parameter
  · rw [eq_of_parameter (perm.mem_iff.mp inside) (perm.mem_iff.mp inside') same]
  · exact Setting.apply_comm same set

namespace Setting

variable {setting : Setting}

/-- The values of a setting, as the reader takes them. -/
def values (setting : Setting) : List Bytes := setting.value?.toList

/-- **The value of a setting** is put in its place. -/
theorem put_values (writable : setting.IsWritable) (arguments : Arguments) :
    arguments.put setting.parameter setting.values = .ok (setting.apply arguments) := by
  have text (text : String) : textOf (Bytes.ofString text) = .ok text := by
    rw [textOf, Bytes.toString?_ofString]
  cases setting with
  | directory directory =>
    show (textOf (Bytes.ofString directory)).map _ = _
    rw [text]
    rfl
  | config path =>
    show (if path = [] then _ else _) = _
    rw [if_neg writable]
    rfl
  | maxConcurrency count =>
    show (countOf (Bytes.ofString (toString count))).map _ = _
    rw [countOf, text]
    dsimp only
    rw [Count.parse_toString writable]
    rfl
  | keepOriginals | strict | verbose => rfl

end Setting

namespace State

variable {state settled : State} {arguments : Arguments} {given : List Parameter}
  {setting : Setting} {parameter : Parameter}

/-! ### One argument -/

/-- What is pending outside of the tokens, when no option waits for its value: at most the
directory. -/
def Waits (state : State) : Prop :=
  state.pending = none ∨ ∃ value, state.pending = some (.directory, [value])

theorem Waits.outside (waits : Waits state) : state.inTokens = false := by
  rcases waits with pending | ⟨value, pending⟩ <;> rw [inTokens, pending]

/-- A value is the directory or, behind it, the first token. -/
theorem Waits.value_eq (waits : Waits state) (argument : Bytes) : state.value argument =
    if state.located then state.start .ignore [argument]
    else (state.start .directory [argument]).map fun next => { next with located := true } := by
  rcases waits with pending | ⟨value, pending⟩ <;> rw [State.value, pending]

/-- A parameter that was not given is put in its place, with the values that it needs. -/
theorem place_of_put {values : List Bytes} {after : Arguments} (state : State)
    (fresh : parameter ∉ state.given) (full : parameter.takesValue = true → values ≠ [])
    (put : state.arguments.put parameter values = .ok after) :
    state.place parameter values =
      .ok { state with arguments := after, given := state.given ++ [parameter] } := by
  rw [place, if_neg fun lacks => full lacks.1 lacks.2, if_neg fresh, put]
  rfl

theorem settle_of_idle (idle : state.pending = none) : state.settle = .ok state := by
  rw [State.settle, idle]

/-! ### What is read so far -/

/-- Whether a state has read what sets some arguments, by some parameters: when what is pending is
put in its place, these are the arguments and these are the parameters that are given. -/
structure HasRead (state : State) (arguments : Arguments) (given : List Parameter) : Prop where
  plain : state.escaped = false
  waits : Waits state
  settles : ∃ settled, state.settle = .ok settled ∧ settled.arguments = arguments ∧
    settled.given = given
  located : state.located = true ↔ .directory ∈ given

namespace HasRead

theorem start : HasRead {} {} [] := ⟨rfl, .inl rfl, ⟨_, rfl, rfl, rfl⟩, by simp⟩

/-- The directory is pending. -/
theorem step_directory (read : HasRead state arguments given) {text : String}
    (writable : (Setting.directory text).IsWritable) (fresh : Parameter.directory ∉ given) :
    ∃ next, state.step (Setting.directory text).written = .ok next ∧
      HasRead next ((Setting.directory text).apply arguments) (given ++ [.directory]) := by
  obtain ⟨settled, settle, rfl, rfl⟩ := read.settles
  obtain ⟨idle, -, escaped⟩ := settle_eq settle
  have first : state.located = false := by
    rw [Bool.eq_false_iff]
    exact fun located => fresh (read.located.mp located)
  have value : state.step (Bytes.ofString text) = orStop (state.value (Bytes.ofString text)) := by
    have undashed : (Bytes.ofString text).head? ≠ some 0x2D := writable
    rw [State.step.eq_def, if_neg (by simp [read.plain, read.waits.outside])]
    split
    · next shape => simp [shape] at undashed
    · next shape => simp [shape] at undashed
    · next shape => simp [shape] at undashed
    · rfl
  refine ⟨{ settled with pending := some (.directory, [Bytes.ofString text]), located := true }, ?_,
    escaped.trans read.plain, .inr ⟨_, rfl⟩, ?_, by simp⟩
  · rw [Setting.written, value, orStop_eq_ok_iff, read.waits.value_eq, first,
      if_neg Bool.false_ne_true, State.start, settle]
    rfl
  · have put : settled.arguments.put .directory [Bytes.ofString text] =
        .ok ((Setting.directory text).apply settled.arguments) := Setting.put_values writable _
    exact ⟨_, place_of_put { settled with pending := none, located := true } fresh (by simp) put,
      rfl, rfl⟩

/-- All but the directory is read by its name. -/
theorem named_of_ne (state : State) (named : setting.parameter ≠ .directory) :
    setting.written = longForm setting.parameter setting.value? ∧
      setting.parameter ∈ Parameter.named ∧
      (setting.parameter.takesValue = true → setting.values ≠ []) ∧
      state.named setting.parameter setting.value? =
        orStop (state.accept setting.parameter setting.values) := by
  cases setting with
  | directory => exact absurd rfl named
  | config | maxConcurrency =>
    exact ⟨rfl, by simp [Setting.parameter, Parameter.named], fun _ => List.cons_ne_nil _ _, rfl⟩
  | keepOriginals | strict | verbose => exact ⟨rfl, by decide, nofun, rfl⟩

/-- A flag, or an option with its value, is put in its place. -/
theorem step_named (read : HasRead state arguments given) (writable : setting.IsWritable)
    (fresh : setting.parameter ∉ given) (named : setting.parameter ≠ .directory) :
    ∃ next, state.step setting.written = .ok next ∧
      HasRead next (setting.apply arguments) (given ++ [setting.parameter]) := by
  obtain ⟨settled, settle, rfl, rfl⟩ := read.settles
  obtain ⟨idle, located, escaped⟩ := settle_eq settle
  obtain ⟨longForm, listed, full, accept⟩ := named_of_ne state named
  have placed := place_of_put settled fresh full
    (Setting.put_values writable settled.arguments)
  refine ⟨{ settled with
    arguments := setting.apply settled.arguments
    given := settled.given ++ [setting.parameter] }, ?_, escaped.trans read.plain, .inl idle,
      ⟨_, settle_of_idle idle, rfl, rfl⟩, ?_⟩
  · rw [longForm, step_longForm read.waits.outside read.plain listed, accept, orStop_eq_ok_iff,
      State.accept, settle]
    exact placed
  · simpa [located, named.symm] using read.located

/-- **One more setting** is read. -/
theorem step (read : HasRead state arguments given) (writable : setting.IsWritable)
    (fresh : setting.parameter ∉ given) : ∃ next, state.step setting.written = .ok next ∧
      HasRead next (setting.apply arguments) (given ++ [setting.parameter]) := by
  cases setting with
  | directory text => exact read.step_directory writable fresh
  | config | keepOriginals | strict | maxConcurrency | verbose =>
    exact read.step_named writable fresh nofun

/-- **Many settings** are read one by one, when no parameter comes twice. -/
theorem run {order : List Setting} (read : HasRead state arguments given)
    (writable : ∀ setting ∈ order, setting.IsWritable)
    (fresh : ∀ setting ∈ order, setting.parameter ∉ given)
    (distinct : order.Pairwise fun first second => first.parameter ≠ second.parameter) :
    ∃ last, (order.map Setting.written).foldlM State.step state = .ok last ∧
      HasRead last (order.foldl Setting.apply arguments)
        (given ++ order.map Setting.parameter) := by
  induction order generalizing state arguments given with
  | nil => exact ⟨state, rfl, by simpa using read⟩
  | cons setting rest ih =>
    obtain ⟨apart, distinct⟩ := List.pairwise_cons.mp distinct
    obtain ⟨next, stepped, read'⟩ :=
      read.step (writable _ List.mem_cons_self) (fresh _ List.mem_cons_self)
    obtain ⟨last, behind, read''⟩ := ih read'
      (fun other inside => writable other (List.mem_cons_of_mem _ inside))
      (fun other inside => by
        simp [fresh other (List.mem_cons_of_mem _ inside), (apart other inside).symm])
      distinct
    refine ⟨last, ?_, by simpa using read''⟩
    rw [List.map_cons, List.foldlM_cons, stepped]
    exact behind

end HasRead

/-! ### The tokens -/

/-- The state behind `--`. -/
def escape (state : State) : State := { state with escaped := true }

theorem settle_escape (settle : state.settle = .ok settled) :
    state.escape.settle = .ok settled.escape := by
  unfold State.settle at settle ⊢
  cases pending : state.pending with
  | none =>
    simp only [pending, Except.ok.injEq] at settle
    subst settle
    simp only [escape, pending]
  | some entry =>
    obtain ⟨parameter, values⟩ := entry
    simp only [pending, place, escape] at settle ⊢
    split at settle
    · cases settle
    · next full =>
      split at settle
      · cases settle
      · next fresh =>
        obtain ⟨after, put, rfl⟩ := exists_of_map_eq_ok settle
        rw [if_neg full, if_neg fresh, put]
        rfl

theorem mapM_textOf (tokens : List String) :
    (tokens.map Bytes.ofString).mapM textOf = .ok tokens := by
  induction tokens with
  | nil => rfl
  | cons token rest ih =>
    rw [List.map_cons, List.mapM_cons, textOf, Bytes.toString?_ofString, ih]
    rfl

/-- **Behind `--` and a directory** all arguments are tokens. -/
theorem exists_foldlM_tokens (waits : Waits state) (escaped : state.escaped = true)
    (located : state.located = true) (settle : state.settle = .ok settled)
    (fresh : .ignore ∉ settled.given) (bare : settled.arguments.ignore = [])
    (tokens : List String) :
    ∃ last ended, (tokens.map Bytes.ofString).foldlM State.step state = .ok last ∧
      last.settle = .ok ended ∧ ended.arguments = { settled.arguments with ignore := tokens } := by
  cases tokens with
  | nil =>
    refine ⟨state, settled, rfl, settle, ?_⟩
    rw [← bare]
  | cons token rest =>
    let first : State := { settled with pending := some (.ignore, [Bytes.ofString token]) }
    have stepped : state.step (Bytes.ofString token) = .ok first := by
      rw [State.step.eq_def, if_pos (.inl escaped), orStop_eq_ok_iff, waits.value_eq,
        if_pos located, State.start, settle]
      rfl
    let gathered : State :=
      { settled with pending := some (.ignore, (token :: rest).map Bytes.ofString) }
    have waiting : first.pending = some (.ignore, [Bytes.ofString token]) := rfl
    have behind : (rest.map Bytes.ofString).foldlM State.step first = .ok gathered :=
      foldlM_tokens waiting _
    have pending : gathered.pending = some (.ignore, (token :: rest).map Bytes.ofString) := rfl
    have ends := settle_tokens pending
    rw [if_neg fresh, mapM_textOf] at ends
    refine ⟨_, _, ?_, ends, rfl⟩
    rw [List.map_cons, List.foldlM_cons, stepped]
    exact behind

/-- **The tokens** end a command line with a directory. -/
theorem HasRead.ends (read : HasRead state arguments given) (located : .directory ∈ given)
    (fresh : .ignore ∉ given) (bare : arguments.ignore = []) (tokens : List String) :
    ∃ last ended, (dashes :: tokens.map Bytes.ofString).foldlM State.step state = .ok last ∧
      last.settle = .ok ended ∧ ended.arguments = { arguments with ignore := tokens } := by
  obtain ⟨settled, settle, rfl, rfl⟩ := read.settles
  have stepped : state.step dashes = .ok state.escape := by
    rw [State.step.eq_def, if_neg (by simp [read.plain, read.waits.outside])]
    rfl
  rw [List.foldlM_cons, stepped]
  have waits : Waits state.escape := read.waits
  exact exists_foldlM_tokens waits rfl (read.located.mpr located) (settle_escape settle) fresh bare
    tokens

end State

/-! ### A command line -/

/-- A directory that does not start with a dash does not look like an option. -/
theorem isWritable_directory {text : String} (undashed : text.toList.head? ≠ some '-') :
    (Setting.directory text).IsWritable := by
  intro dash
  obtain ⟨rest, bytes⟩ := List.head?_eq_some_iff.mp dash
  have pieces := Utf8.pieces_encode text.toList []
  rw [List.append_nil] at pieces
  rw [Bytes.ofString] at bytes
  rw [bytes, Utf8.pieces_ascii (by decide)] at pieces
  cases shape : text.toList with
  | nil => simp [shape] at pieces
  | cons c others =>
    simp only [shape, List.map_cons, List.cons_append, List.cons.injEq] at pieces
    refine undashed ?_
    rw [shape, List.head?_cons, ← Utf8.Piece.char.inj pieces.1]
    rfl

/-- **A command line is read back.** Arguments with a directory that does not start with a dash, no
empty path of a settings file and no count of more than 64 bits are read from the command line that
has their settings in any order and then the tokens behind `--`. -/
theorem ofList_written {arguments : Arguments} {directory : String}
    (located : arguments.directory = some directory) (undashed : directory.toList.head? ≠ some '-')
    (config : arguments.config ≠ some [])
    (count : ∀ count, arguments.maxConcurrency = some count → count < 2 ^ 64)
    {order : List Setting} (perm : order.Perm arguments.settings) :
    ofList (written order arguments.ignore) = .ok arguments := by
  have writable : ∀ setting ∈ order, setting.IsWritable := by
    intro setting inside
    have set := mem_settings_iff.mp (perm.mem_iff.mp inside)
    cases setting with
    | directory text =>
      obtain ⟨_, found, ⟨⟩⟩ := Option.map_eq_some_iff.mp set
      obtain rfl := Option.some.inj (located.symm.trans found)
      exact isWritable_directory undashed
    | config path =>
      obtain ⟨_, found, ⟨⟩⟩ := Option.map_eq_some_iff.mp set
      rintro rfl
      exact config found
    | maxConcurrency number =>
      obtain ⟨_, found, ⟨⟩⟩ := Option.map_eq_some_iff.mp set
      exact count number found
    | keepOriginals | strict | verbose => trivial
  have distinct := (perm.pairwise_iff fun apart => Ne.symm apart).mpr (pairwise_settings arguments)
  obtain ⟨middle, front, read⟩ := State.HasRead.start.run writable (by simp) distinct
  rw [foldl_apply_perm perm, List.nil_append] at read
  have set : Setting.directory directory ∈ arguments.settings :=
    mem_settings_iff.mpr (congrArg (Option.map Setting.directory) located)
  have named : .directory ∈ order.map Setting.parameter :=
    List.mem_map.mpr ⟨_, perm.mem_iff.mpr set, rfl⟩
  have fresh : .ignore ∉ order.map Setting.parameter := by
    rintro inside
    obtain ⟨setting, -, same⟩ := List.mem_map.mp inside
    cases setting <;> cases same
  obtain ⟨last, ended, back, settle, same⟩ := read.ends named fresh rfl arguments.ignore
  refine ofList_eq_ok_iff.mpr ⟨last, ended, ?_, settle, same⟩
  rw [written, List.foldlM_append, front]
  exact back

namespace Disordered

/-- Tokens that look like options, a path that is no text, and the largest count. -/
def arguments : Arguments where
  directory := some "src"
  ignore := ["--", "--help", "", "-c"]
  config := some [0xFF]
  strict := true
  maxConcurrency := some 18446744073709551615

def order : List Setting :=
  [.strict, .maxConcurrency 18446744073709551615, .directory "src", .config [0xFF]]

end Disordered

/-- A command line with the directory between the options, and with tokens that look like options.
-/
theorem ofList_written_disordered :
    ofList (written Disordered.order Disordered.arguments.ignore) = .ok Disordered.arguments := by
  have count : ∀ count, Disordered.arguments.maxConcurrency = some count → count < 2 ^ 64 := by
    rintro _ ⟨⟩
    decide
  have located : Disordered.arguments.directory = some "src" := rfl
  exact ofList_written located (by decide) (by decide) count (by decide)

end Arguments

end Retarget
