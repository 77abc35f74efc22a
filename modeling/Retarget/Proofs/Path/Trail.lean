/-
**Paths with a trail.**

Behind its last name a path may go on with `/`s, each with nothing or one dot behind it. The name is
found in front of such a trail, but a new extension is cut off the end of the path: bytes are taken
off the trail, and off the old extension where the trail is too short. Either way what is left is
the stem with a dot behind it, then perhaps letters of the old extension or a shorter trail, and the
name that ends there has the same stem. So the ending by which a path names a source is the one that
a target replaces, and the trail is dropped.

* `Script.exists_divided_of_ofPath?`: a path that names a source, cut in three places;
* `Script.Divided.destination_target`: the target of a target;
* `Script.exists_destination_eq_append`: where a source path is cut, and what stays of it.
-/

import Retarget.Proofs.Path.Ending

namespace Retarget

namespace Script

open Retarget.Path (IsFront IsIdle dot)

section Targets

variable {path : Path} {wanted : List Source} {source : Source}

/-- **A path that names a source**, cut in front of its name, of its ending and of its trail. -/
theorem exists_divided_of_ofPath? (named : Source.ofPath? wanted path = some source)
    (visible : ∀ name, path.name? = some name → name.head? ≠ some dot) :
    ∃ front stem trail, path = front ++ (stem ++ Bytes.ofString source.suffix) ++ trail ∧
      path.name? = some (stem ++ Bytes.ofString source.suffix) ∧ IsIdle trail ∧
      Divided (front ++ (stem ++ Bytes.ofString source.suffix)) source front stem := by
  obtain ⟨name, found, -⟩ := Source.ofPath?_eq_some_iff.mp named
  obtain ⟨leaf, cut, rfl⟩ := Option.map_eq_some_iff.mp found
  obtain ⟨split, isFront, isWord, isIdle⟩ := Path.eq_of_leaf? cut
  have bare : Source.ofPath? wanted (leaf.front ++ leaf.name) = some source := by
    rw [← named, Source.ofPath?_congr_name ((Path.name?_append isFront isWord).trans found.symm)]
  obtain ⟨stem, name, divided⟩ := divided_of_ofPath? isFront isWord (visible _ found) bare
  rw [← List.append_assoc, name] at split
  rw [name] at found divided
  exact ⟨leaf.front, stem, leaf.trail, split, found, isIdle, divided⟩

/-- **The target of a target** is the target of the source. -/
theorem Divided.destination_target {front : Path} {stem : Bytes}
    (divided : Divided path source front stem) (target target' : Target) :
    destination (front ++ (stem ++ Bytes.ofString target.suffix)) target' =
      front ++ (stem ++ Bytes.ofString target'.suffix) := by
  have whole := (divided.isWord_target target).whole
  have dotless : dot ∉ Bytes.ofString target.extension := by cases target <;> decide
  rw [target.suffix_eq] at whole
  rw [destination, target.suffix_eq, target'.suffix_eq]
  simpa using Path.withExtension_append_idle (Bytes.ofString target'.extension) divided.isFront
    divided.nonempty divided.not_dot whole dotless Path.isIdle_nil

/-- **One ending is tested and replaced.** A path that names a source, with a name that is not
hidden, is a front, a stem, the ending of the source and a trail; its target is the front, the stem
and the ending of the target. So a target may be changed for another one without a look at the
source. -/
theorem exists_destination_eq_append (named : Source.ofPath? wanted path = some source)
    (visible : ∀ name, path.name? = some name → name.head? ≠ some dot) :
    (∃ front stem trail, path = front ++ (stem ++ Bytes.ofString source.suffix) ++ trail ∧
      IsFront front ∧ path.name? = some (stem ++ Bytes.ofString source.suffix) ∧ stem ≠ [] ∧
      IsIdle trail ∧
      ∀ target : Target, destination path target = front ++ stem ++ Bytes.ofString target.suffix) ∧
    ∀ target target' : Target,
      destination (destination path target) target' = destination path target' := by
  obtain ⟨front, stem, trail, rfl, name, isIdle, divided⟩ := exists_divided_of_ofPath? named visible
  refine ⟨⟨front, stem, trail, rfl, divided.isFront, name, divided.nonempty, isIdle, ?_⟩, ?_⟩
  · intro target
    rw [divided.destination_append_idle isIdle, List.append_assoc]
  · intro target target'
    rw [divided.destination_append_idle isIdle, divided.destination_append_idle isIdle,
      divided.destination_target]

end Targets

namespace Dotted

/-- A directory and a name with dots in them, and a trail that is shorter than the extension. -/
def path : Path := Bytes.ofString "a.b/c.js.jsx/."

theorem ofPath?_path : Source.ofPath? Source.all path = some .jsx := by
  rw [← Source.firstOf?_eq_ofPath?]
  decide

theorem name?_path : path.name? = some (Bytes.ofString "c.js.jsx") := by decide

end Dotted

/-- Only the last extension is replaced, and the trail is dropped. -/
theorem exists_destination_eq_append_dotted :
    Source.ofPath? Source.all Dotted.path = some .jsx ∧
      destination Dotted.path .tsx = Bytes.ofString "a.b/c.js.tsx" ∧
        destination (destination Dotted.path .tsx) .ts = destination Dotted.path .ts := by
  have visible : ∀ name, Dotted.path.name? = some name → name.head? ≠ some dot := by
    intro name found
    rw [Dotted.name?_path, Option.some.injEq] at found
    subst found
    decide
  have again := (exists_destination_eq_append Dotted.ofPath?_path visible).2
  exact ⟨Dotted.ofPath?_path, by decide, again .tsx .ts⟩

end Script

end Retarget
