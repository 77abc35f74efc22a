/-
**When two targets clash.**

The search cuts the name of a candidate in front of the ending of its source, and the target has the
same stem. So a target determines the directory, the stem and its own ending, and two candidates
with one target have one stem: they are a `.js` file and a `.jsx` file, and the `.js` file has
markup. No target ends like a source, so none is the path of a candidate.

Paths are compared in two ways, byte by byte and by their components; below one root both say the
same.

* `Discovery.Selected.exists_divided`: the path of a candidate, cut in front of its name and ending;
* `Discovery.components_destination`: the components of a target below a root;
* `Conversion.SharesTarget`: a `.js` file with markup and a `.jsx` file of one stem;
* `Conversion.destination_eq_iff_sharesTarget`: which targets clash, and that none is a source.
-/

import Retarget.Proofs.Conversion.Preservation
import Retarget.Proofs.Discovery.Renewal

namespace Retarget

open Script (Divided destination)

/-! ### Targets below a root -/

namespace Discovery

variable {tree : FileTree} {home : Location} {root path : Path} {wanted : List Script.Source}
  {tokens : List String} {candidate : Candidate} {names before before' : List Name}
  {content stem stem' : Bytes} {source : Script.Source} {target target' : Script.Target}

/-- **The path of a candidate** is cut in front of its name and in front of its ending. -/
theorem Selected.exists_divided [Host]
    (selected : Selected tree home root wanted tokens candidate names content) :
    ∃ before stem,
      Divided candidate.path candidate.source (pathOf root before).opened stem := by
  obtain ⟨before, last, rfl, -⟩ := selected.exists_last
  obtain ⟨stem, -, divided⟩ := selected.exists_stem
  exact ⟨before, stem, divided⟩

/-- A word behind the path of some names is one more component. -/
theorem components_opened_append (nonempty : root ≠ []) (before : List Name) {word : Bytes}
    (isWord : Path.IsWord word) : Path.components ((pathOf root before).opened ++ word) =
      root.components ++ (before.map fun name => .name name.bytes) ++ [.name word] := by
  obtain ⟨rest, shape, -⟩ := exists_pathOf_eq_append root before
  have deeper : pathOf root before ≠ [] := by simp [shape, nonempty]
  rw [← Path.under_eq, Path.components_under deeper isWord, components_pathOf nonempty]

/-- **The components of a target** are those of the root, the names on the way, and the stem with
the ending of the target. -/
theorem components_destination (nonempty : root ≠ [])
    (divided : Divided path source (pathOf root before).opened stem) (target : Script.Target) :
    (destination path target).components =
      root.components ++ (before.map fun name => .name name.bytes) ++
        [.name (stem ++ Bytes.ofString target.suffix)] := by
  rw [divided.destination_eq, components_opened_append nonempty before (divided.isWord_target target)]

theorem components_source (nonempty : root ≠ [])
    (divided : Divided path source (pathOf root before).opened stem) :
    path.components = root.components ++ (before.map fun name => .name name.bytes) ++
      [.name (stem ++ Bytes.ofString source.suffix)] := by
  conv_lhs => rw [divided.path_eq]
  exact components_opened_append nonempty before divided.isWord

/-- Names and a word behind them are determined by their components. -/
theorem names_eq_of_components {word word' : Bytes}
    (same : root.components ++ (before.map fun name => .name name.bytes) ++ [.name word] =
      root.components ++ (before'.map fun name => .name name.bytes) ++ [.name word']) :
    before = before' ∧ word = word' := by
  obtain ⟨fronts, words⟩ := List.append_inj' same rfl
  have maps := List.append_cancel_left fronts
  refine ⟨List.map_injective_iff.mpr (fun _ _ equal => ?_) maps, ?_⟩
  · exact bytes_injective (Path.Component.name.inj equal)
  · exact Path.Component.name.inj (List.cons.inj words).1

end Discovery

namespace Conversion

/-! ### Candidates with one target -/

/-- Whether a `.js` file and a `.jsx` file have one stem and the content of the `.js` file has
markup, so that both have one target. -/
def SharesTarget (script element : Candidate) (content : List Char) : Prop :=
  ∃ stem, script.path = stem ++ Bytes.ofString Script.Source.js.suffix ∧
    element.path = stem ++ Bytes.ofString Script.Source.jsx.suffix ∧ hasMarkup content = true

section Pair

variable {root : Path} {first second : Candidate} {before before' : List Name}
  {stem stem' : Bytes} {content content' : List Char}

/-- Targets with the same components are those of one file, or of a `.js` file with markup and a
`.jsx` file of one stem. -/
theorem eq_or_sharesTarget (nonempty : root ≠ [])
    (divided : Divided first.path first.source (Discovery.pathOf root before).opened stem)
    (divided' : Divided second.path second.source (Discovery.pathOf root before').opened stem')
    (same : (destination first.path (first.source.target content)).components =
      (destination second.path (second.source.target content')).components) :
    first = second ∨ SharesTarget first second content ∨ SharesTarget second first content' := by
  rw [Discovery.components_destination nonempty divided,
    Discovery.components_destination nonempty divided'] at same
  obtain ⟨rfl, words⟩ := Discovery.names_eq_of_components same
  obtain ⟨rfl, targets⟩ := Script.Target.append_suffix_inj words
  have path := divided.path_eq
  have path' := divided'.path_eq
  rw [← List.append_assoc] at path path'
  -- One front and one stem are left, and only the sources are open.
  generalize (Discovery.pathOf root before).opened ++ stem = front at path path'
  obtain ⟨_, source⟩ := first
  obtain ⟨_, source'⟩ := second
  obtain rfl : _ = front ++ Bytes.ofString source.suffix := path
  obtain rfl : _ = front ++ Bytes.ofString source'.suffix := path'
  cases source with
  | js =>
    cases source' with
    | js => exact .inl rfl
    | jsx =>
      refine .inr (.inl ⟨front, rfl, rfl, ?_⟩)
      by_contra plain
      simp [Script.Source.target, plain] at targets
  | jsx =>
    cases source' with
    | js =>
      refine .inr (.inr ⟨front, rfl, rfl, ?_⟩)
      by_contra plain
      simp [Script.Source.target, plain] at targets
    | jsx => exact .inl rfl

/-- **Files that share a target** have one target. -/
theorem destination_eq_of_sharesTarget
    (divided : Divided first.path first.source (Discovery.pathOf root before).opened stem)
    (divided' : Divided second.path second.source (Discovery.pathOf root before').opened stem')
    (shares : SharesTarget first second content) :
    destination first.path (first.source.target content) =
      destination second.path (second.source.target content') := by
  obtain ⟨front, path, path', markup⟩ := shares
  have ends := divided.path_eq.symm.trans path
  have ends' := divided'.path_eq.symm.trans path'
  rw [← List.append_assoc] at ends ends'
  obtain ⟨stems, script⟩ := Script.Source.append_suffix_inj ends
  obtain ⟨stems', element⟩ := Script.Source.append_suffix_inj ends'
  have target : Script.Source.js.target content = .tsx := if_pos markup
  rw [divided.destination_eq, divided'.destination_eq, script, element, target,
    ← List.append_assoc, ← List.append_assoc, stems, stems']
  rfl

/-- **No target is the path of a source.** -/
theorem components_destination_ne (nonempty : root ≠ [])
    (divided : Divided first.path first.source (Discovery.pathOf root before).opened stem)
    (divided' : Divided second.path second.source (Discovery.pathOf root before').opened stem')
    (target : Script.Target) :
    (destination first.path target).components ≠ second.path.components := by
  rw [Discovery.components_destination nonempty divided,
    Discovery.components_source nonempty divided']
  intro same
  exact Script.Target.append_suffix_ne _ _ _ _ (Discovery.names_eq_of_components same).2

end Pair

/-- **When two targets clash.** Of two candidates of one search, whatever their contents are, the
targets are the same when a `.js` file with markup and a `.jsx` file have one stem, and in no other
case; and no target is the path of a candidate. This is so for paths as bytes and for their
components. -/
theorem destination_eq_iff_sharesTarget [Host] {tree : FileTree} {cwd : Location} {root : Path}
    {wanted : List Script.Source} {tokens : List String} {candidates : List Candidate}
    {first second : Candidate}
    (found : Discovery.candidates tree cwd root wanted tokens = .ok candidates)
    (listed : first ∈ candidates) (listed' : second ∈ candidates) (content content' : List Char) :
    (first ≠ second →
      (destination first.path (first.source.target content) =
          destination second.path (second.source.target content') ↔
        SharesTarget first second content ∨ SharesTarget second first content') ∧
      ((destination first.path (first.source.target content)).components =
          (destination second.path (second.source.target content')).components ↔
        SharesTarget first second content ∨ SharesTarget second first content')) ∧
    destination first.path (first.source.target content) ≠ second.path ∧
      (destination first.path (first.source.target content)).components ≠
        second.path.components := by
  obtain ⟨home, located⟩ := Discovery.locate_of_candidates found
  have nonempty := (Discovery.reaches_root located).1
  obtain ⟨-, names, _, selected⟩ := (Discovery.mem_candidates found located).mp listed
  obtain ⟨-, names', _, selected'⟩ := (Discovery.mem_candidates found located).mp listed'
  obtain ⟨before, stem, divided⟩ := selected.exists_divided
  obtain ⟨before', stem', divided'⟩ := selected'.exists_divided
  have apart := components_destination_ne nonempty divided divided' (first.source.target content)
  have meets : SharesTarget first second content ∨ SharesTarget second first content' →
      destination first.path (first.source.target content) =
        destination second.path (second.source.target content') := by
    rintro (shares | shares)
    · exact destination_eq_of_sharesTarget divided divided' shares
    · exact (destination_eq_of_sharesTarget divided' divided shares).symm
  refine ⟨fun different => ?_, fun same => apart (congrArg Path.components same), apart⟩
  have shared (same : (destination first.path (first.source.target content)).components =
      (destination second.path (second.source.target content')).components) :=
    (eq_or_sharesTarget nonempty divided divided' same).resolve_left different
  exact ⟨⟨fun same => shared (congrArg Path.components same), meets⟩,
    ⟨shared, fun shares => congrArg Path.components (meets shares)⟩⟩

/-- A `.js` file with markup and a `.jsx` file beside it have one target, and without the markup
they have two. -/
theorem destination_eq_iff_sharesTarget_twins :
    destination Twins.script.path (Twins.script.source.target ['<', '>']) =
        destination Twins.element.path (Twins.element.source.target []) ∧
      destination Twins.script.path (Twins.script.source.target []) ≠
        destination Twins.element.path (Twins.element.source.target []) := by
  have listed : Twins.script ∈ [Twins.script, Twins.element] := by simp
  have listed' : Twins.element ∈ [Twins.script, Twins.element] := by simp
  have different : Twins.script ≠ Twins.element := by decide
  have clash := fun content =>
    ((destination_eq_iff_sharesTarget Twins.candidates_eq listed listed' content []).1 different).1
  have cut : Twins.script.path =
      Bytes.ofString "r/a" ++ Bytes.ofString Script.Source.js.suffix := by decide
  refine ⟨(clash ['<', '>']).mpr (.inl ⟨Bytes.ofString "r/a", cut, by decide, by decide⟩), ?_⟩
  intro same
  rcases (clash []).mp same with ⟨_, -, -, markup⟩ | ⟨_, -, path, -⟩
  · exact absurd markup (by decide)
  · exact absurd (Script.Source.append_suffix_inj (cut.symm.trans path)).2 (by decide)

end Conversion

end Retarget
