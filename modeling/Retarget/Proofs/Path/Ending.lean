/-
**The ending of a source path, and the path of its target.**

A source path is cut twice: in front of its last name, and in front of its ending. What is left
between the two cuts is the stem. The target is the same front and stem with another ending.

* `Path.take_eq_append`: what is left of a path when its extension is cut off its end;
* `Path.withExtension_append_idle`: a new extension takes the place of the old one and of a trail;
* `Script.Source.ofPath?_eq_some_iff`: which source a path names;
* `Script.Divided`: a path cut in front of its name and of its ending;
* `Script.Divided.destination_append_idle`: the path of the target;
* `Script.Target.append_suffix_ne`: no target has the name of a source.
-/

import Mathlib.Data.Option.Basic
import Retarget.Proofs.Path.Front
import Retarget.Script

namespace Retarget

namespace Path

variable {front : Path} {stem old trail : Bytes}

/-! ### A new extension -/

theorem cutName_append {extension : Bytes} (nonempty : stem ≠ []) (dotless : dot ∉ extension) :
    cutName (stem ++ dot :: extension) = (stem, some extension) := by
  have keeps : ∀ byte ∈ extension.reverse, (byte != dot) = true := by
    intro byte inside
    simp only [bne_iff_ne, ne_eq]
    rintro rfl
    exact dotless (List.mem_reverse.mp inside)
  have after : (stem ++ dot :: extension).reverse.takeWhile (· != dot) = extension.reverse := by
    rw [List.reverse_append, List.reverse_cons, List.append_assoc,
      List.takeWhile_append_of_pos keeps]
    simp
  have before : (stem ++ dot :: extension).take
      ((stem ++ dot :: extension).length - (extension.reverse.length + 1)) = stem := by
    simp
  simp only [cutName, after, before, nonempty, if_false, List.reverse_reverse]

/-- **What is left of a path** when as many bytes are taken off its end as its extension has: the
stem with a dot behind it, some letters of the extension, and a trail. -/
theorem take_eq_append (front : Path) (stem old : Bytes) (isIdle : IsIdle trail) :
    ∃ letters idle, letters <+: old ∧ IsIdle idle ∧
    (front ++ (stem ++ dot :: old ++ trail)).take
      ((front ++ (stem ++ dot :: old ++ trail)).length - old.length) =
        front ++ (stem ++ dot :: letters ++ idle) := by
  by_cases short : trail.length ≤ old.length
  · refine ⟨old.take trail.length, [], List.take_prefix _ _, isIdle.take 0, ?_⟩
    have halves := (List.take_append_drop trail.length old).symm
    have split : front ++ (stem ++ dot :: old ++ trail) =
        (front ++ (stem ++ dot :: old.take trail.length)) ++ (old.drop trail.length ++ trail) := by
      conv_lhs => rw [halves]
      simp only [List.append_assoc, List.cons_append]
    rw [split, List.take_left']
    · simp
    · simp
      omega
  · refine ⟨old, trail.take (trail.length - old.length), List.prefix_rfl, isIdle.take _, ?_⟩
    have split : front ++ (stem ++ dot :: old ++ trail) =
        (front ++ (stem ++ dot :: old ++ trail.take (trail.length - old.length))) ++
          trail.drop (trail.length - old.length) := by
      simp [List.take_append_drop]
    rw [split, List.take_left']
    simp
    omega

/-- **A new extension for a path with a trail** takes the place of the old one and of the trail. -/
theorem withExtension_append_idle (new : Bytes) (isFront : IsFront front) (nonempty : stem ≠ [])
    (not_dot : stem ≠ [dot]) (whole : slash ∉ stem ++ dot :: old) (dotless : dot ∉ old)
    (isIdle : IsIdle trail) :
    withExtension (front ++ (stem ++ dot :: old ++ trail)) new = front ++ (stem ++ dot :: new) := by
  -- What is left in front of the trail is a word too, so the leaf is found there again.
  have isWord (letters : Bytes) (inside : letters <+: old) : IsWord (stem ++ dot :: letters) := by
    obtain ⟨first, rest, rfl⟩ := List.exists_cons_of_ne_nil nonempty
    refine ⟨by simp, by simp, ?_, ?_⟩
    · intro same
      cases rest with
      | nil => exact not_dot (congrArg (· :: []) (List.cons.inj same).1)
      | cons => simp at same
    · have part : (first :: rest) ++ dot :: letters <+: (first :: rest) ++ dot :: old := by
        simpa using inside
      exact fun slashed => whole (part.subset slashed)
  have extension : extension? (front ++ (stem ++ dot :: old ++ trail)) = some old := by
    rw [extension?, name?, leaf?_append_idle isFront (isWord old List.prefix_rfl) isIdle]
    exact congrArg Prod.snd (cutName_append nonempty dotless)
  obtain ⟨letters, idle, inside, isIdle', left⟩ := take_eq_append front stem old isIdle
  rw [withExtension, extension, Option.getD_some, left,
    leaf?_append_idle isFront (isWord letters inside) isIdle']
  simp only [cutName_append nonempty fun dotted => dotless (inside.subset dotted)]
  simp

end Path

namespace Script

open Retarget.Path (IsFront IsIdle IsWord dot slash)

/-! ### Endings -/

/-- The ending of a source is a dot and letters. -/
theorem Source.suffix_eq (source : Source) : ∃ letters,
    Bytes.ofString source.suffix = dot :: letters ∧ dot ∉ letters ∧ slash ∉ letters := by
  cases source
  · exact ⟨[0x6A, 0x73], by decide⟩
  · exact ⟨[0x6A, 0x73, 0x78], by decide⟩

theorem Target.suffix_eq (target : Target) :
    Bytes.ofString target.suffix = dot :: Bytes.ofString target.extension := by
  cases target <;> decide

theorem Source.two_lt_length (source : Source) : 2 < (Bytes.ofString source.suffix).length := by
  cases source <;> decide

theorem Target.two_lt_length (target : Target) : 2 < (Bytes.ofString target.suffix).length := by
  cases target <;> decide

theorem Source.slash_notMem (source : Source) : slash ∉ Bytes.ofString source.suffix := by
  cases source <;> decide

theorem Target.slash_notMem (target : Target) : slash ∉ Bytes.ofString target.suffix := by
  cases target <;> decide

theorem Target.zero_notMem (target : Target) : 0 ∉ Bytes.ofString target.suffix := by
  cases target <;> decide

theorem Source.reverse_suffix (source : Source) : (Bytes.ofString source.suffix).reverse =
    match source with
    | .js => [0x73, 0x6A, 0x2E]
    | .jsx => [0x78, 0x73, 0x6A, 0x2E] := by
  cases source <;> decide

theorem Target.reverse_suffix (target : Target) : (Bytes.ofString target.suffix).reverse =
    match target with
    | .ts => [0x73, 0x74, 0x2E]
    | .tsx => [0x78, 0x73, 0x74, 0x2E] := by
  cases target <;> decide

/-- **No target has the name of a source.** -/
theorem Target.append_suffix_ne (target : Target) (source : Source) (stem other : Bytes) :
    stem ++ Bytes.ofString target.suffix ≠ other ++ Bytes.ofString source.suffix := by
  intro same
  have backwards := congrArg List.reverse same
  rw [List.reverse_append, List.reverse_append, target.reverse_suffix, source.reverse_suffix]
    at backwards
  cases target <;> cases source <;> simp at backwards

/-- **A target determines its stem and its ending.** -/
theorem Target.append_suffix_inj {target target' : Target} {stem stem' : Bytes}
    (same : stem ++ Bytes.ofString target.suffix = stem' ++ Bytes.ofString target'.suffix) :
    stem = stem' ∧ target = target' := by
  have backwards := congrArg List.reverse same
  rw [List.reverse_append, List.reverse_append, target.reverse_suffix, target'.reverse_suffix]
    at backwards
  cases target <;> cases target' <;> simp at backwards
  · exact ⟨backwards, rfl⟩
  · exact ⟨backwards, rfl⟩

/-- **A source name determines its stem and its ending.** -/
theorem Source.append_suffix_inj {source source' : Source} {stem stem' : Bytes}
    (same : stem ++ Bytes.ofString source.suffix = stem' ++ Bytes.ofString source'.suffix) :
    stem = stem' ∧ source = source' := by
  have backwards := congrArg List.reverse same
  rw [List.reverse_append, List.reverse_append, source.reverse_suffix, source'.reverse_suffix]
    at backwards
  cases source <;> cases source' <;> simp at backwards
  · exact ⟨backwards, rfl⟩
  · exact ⟨backwards, rfl⟩

/-! ### A source path cut in two places -/

/-- A path cut in front of its name and in front of the ending of a source. The name is not
hidden. -/
structure Divided (path : Path) (source : Source) (front : Path) (stem : Bytes) : Prop where
  path_eq : path = front ++ (stem ++ Bytes.ofString source.suffix)
  isFront : IsFront front
  nonempty : stem ≠ []
  visible : stem.head? ≠ some dot
  whole : slash ∉ stem

namespace Divided

variable {path front : Path} {source : Source} {stem trail : Bytes}

theorem not_dot (divided : Divided path source front stem) : stem ≠ [dot] :=
  fun same => divided.visible (by rw [same]; rfl)

theorem isWord (divided : Divided path source front stem) :
    IsWord (stem ++ Bytes.ofString source.suffix) := by
  refine .of_length ?_ ?_
  · have long := source.two_lt_length
    rw [List.length_append]
    omega
  · rw [List.mem_append, not_or]
    exact ⟨divided.whole, source.slash_notMem⟩

theorem isWord_target (divided : Divided path source front stem) (target : Target) :
    IsWord (stem ++ Bytes.ofString target.suffix) := by
  refine .of_length ?_ ?_
  · have long := target.two_lt_length
    rw [List.length_append]
    omega
  · rw [List.mem_append, not_or]
    exact ⟨divided.whole, target.slash_notMem⟩

/-- **The path of the target** has another ending and no trail. -/
theorem destination_append_idle (divided : Divided path source front stem)
    (isIdle : IsIdle trail) (target : Target) :
    destination (path ++ trail) target = front ++ (stem ++ Bytes.ofString target.suffix) := by
  obtain ⟨letters, suffix, dotless, -⟩ := source.suffix_eq
  have whole := divided.isWord.whole
  rw [suffix] at whole
  rw [destination, divided.path_eq, suffix, target.suffix_eq, List.append_assoc]
  exact Path.withExtension_append_idle _ divided.isFront divided.nonempty divided.not_dot whole
    dotless isIdle

theorem destination_eq (divided : Divided path source front stem) (target : Target) :
    destination path target = front ++ (stem ++ Bytes.ofString target.suffix) := by
  simpa using divided.destination_append_idle Path.isIdle_nil target

end Divided

/-- A name that ends like a source is a stem and that ending. -/
theorem Source.ends_iff {source : Source} {name : Bytes} : source.ends name = true ↔
    ∃ stem, stem ≠ [] ∧ name = stem ++ Bytes.ofString source.suffix := by
  rw [Source.ends, Bool.and_eq_true, decide_eq_true_eq, List.isSuffixOf_iff_suffix]
  constructor
  · rintro ⟨longer, stem, rfl⟩
    refine ⟨stem, ?_, rfl⟩
    rintro rfl
    simp at longer
  · rintro ⟨stem, nonempty, rfl⟩
    have long := List.length_pos_of_ne_nil nonempty
    exact ⟨by rw [List.length_append]; omega, List.suffix_append _ _⟩

/-- No name ends like two sources. -/
theorem Source.eq_of_ends {source source' : Source} {name : Bytes}
    (ends : source.ends name = true) (ends' : source'.ends name = true) : source = source' := by
  obtain ⟨stem, -, rfl⟩ := Source.ends_iff.mp ends
  obtain ⟨stem', -, same⟩ := Source.ends_iff.mp ends'
  exact (Source.append_suffix_inj same).2

/-- A path names the source of a list that its name ends like, when the name is a text. -/
theorem Source.firstOf?_eq_some_iff {sources : List Source} {path : Path} {source : Source} :
    Source.firstOf? sources path = some source ↔ ∃ name, path.name? = some name ∧
      (∃ text, Utf8.decode? name = some text) ∧ source ∈ sources ∧ source.ends name = true := by
  simp only [Source.firstOf?, Option.bind_eq_bind, Option.bind_eq_some_iff, Option.guard_eq_some',
    Option.isSome_iff_exists]
  refine exists_congr fun name => and_congr_right fun _ => ?_
  constructor
  · rintro ⟨-, text, found⟩
    exact ⟨text, List.mem_of_find?_eq_some found,
      List.find?_some (p := fun s : Source => s.ends name) found⟩
  · rintro ⟨text, asked, ends⟩
    refine ⟨(), text, ?_⟩
    have fits : (sources.find? (·.ends name)).isSome = true :=
      List.find?_isSome.mpr ⟨source, asked, ends⟩
    obtain ⟨source', found⟩ := Option.isSome_iff_exists.mp fits
    have ends' : source'.ends name = true :=
      List.find?_some (p := fun s : Source => s.ends name) found
    rw [found, Source.eq_of_ends ends ends']

@[simp] theorem Source.mem_longestFirst {sources : List Source} {source : Source} :
    source ∈ Source.longestFirst sources ↔ source ∈ sources :=
  List.mem_mergeSort

/-- **The source that a path names** is the wanted one that its name ends like, when the name is a
text. -/
theorem Source.ofPath?_eq_some_iff {wanted : List Source} {path : Path} {source : Source} :
    Source.ofPath? wanted path = some source ↔ ∃ name, path.name? = some name ∧
      (∃ text, Utf8.decode? name = some text) ∧ source ∈ wanted ∧ source.ends name = true := by
  simp only [Source.ofPath?, Source.firstOf?_eq_some_iff, Source.mem_longestFirst]

/-- Longer endings need not be tried first. -/
theorem Source.firstOf?_eq_ofPath? (wanted : List Source) (path : Path) :
    Source.firstOf? wanted path = Source.ofPath? wanted path := by
  refine Option.ext fun source => ?_
  rw [Source.firstOf?_eq_some_iff, Source.ofPath?_eq_some_iff]

/-- **A front and a source name** are a divided path, when the name is not hidden. -/
theorem divided_of_ofPath? {wanted : List Source} {source : Source} {front : Path} {word : Bytes}
    (isFront : IsFront front) (isWord : IsWord word) (visible : word.head? ≠ some dot)
    (named : Source.ofPath? wanted (front ++ word) = some source) :
    ∃ stem, word = stem ++ Bytes.ofString source.suffix ∧
      Divided (front ++ word) source front stem := by
  obtain ⟨name, found, -, -, ends⟩ := Source.ofPath?_eq_some_iff.mp named
  obtain rfl : word = name := by simpa [Path.name?_append isFront isWord] using found
  obtain ⟨stem, nonempty, rfl⟩ := Source.ends_iff.mp ends
  refine ⟨stem, rfl, ⟨rfl, isFront, nonempty, ?_, ?_⟩⟩
  · rwa [List.head?_append_of_ne_nil _ nonempty] at visible
  · exact fun inside => isWord.whole (List.mem_append_left _ inside)

end Script

end Retarget
