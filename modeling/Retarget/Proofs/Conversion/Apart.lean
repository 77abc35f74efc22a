/-
**Candidates that stand apart.**

What a conversion comes to can be told from the tree before the run: whether its file is read, where
its target goes, and whether the file can be removed then. The files of the candidates stand at
places of their own, and no target is one of these places. Two targets meet in one case only, when a
`.js` file with markup stands beside a `.jsx` file of one stem.

* `Conversion.fate`, `Conversion.held?` and `Conversion.verdict`: what a conversion comes to, what
  keeps its file from being removed, and how it ends;
* `Conversion.Placed` and `Conversion.Apart`: candidates with a place each;
* `Conversion.Apart.target_ne`: no target is the place of a source;
* `Conversion.Apart.eq_or_clashes`: when two targets meet;
* `Conversion.exists_placed` and `Conversion.exists_apart`: the candidates of a run.
-/

import Mathlib.Tactic.ByContra
import Retarget.Proofs.Conversion.Site
import Retarget.Proofs.FileTree.Effect

namespace Retarget.Conversion

open FileTree (TakesFile)

/-- What a conversion comes to. -/
inductive Fate where
  | unread (error : FileError)
  | unwritten (error : FileError)
  | moved (file : Loaded) (target : Location)

variable [Host]

/-- What the conversion of a candidate comes to, as the tree before the run tells. -/
def fate (ground : FileTree) (cwd : Location) (candidate : Candidate) : Fate :=
  match load ground cwd candidate with
  | .error error => .unread error
  | .ok file =>
    match ground.writeTarget cwd (destinationOf candidate file) with
    | .error error => .unwritten error
    | .ok target => .moved file target

/-- Why the file of a candidate cannot be removed, as the tree before the run tells. -/
def held? (ground : FileTree) (cwd : Location) (candidate : Candidate) : Option FileError :=
  match ground.removeTarget cwd candidate.path with
  | .error error => some error
  | .ok _ => none

/-- Whether a conversion takes its file away once the target is written. -/
def Discards (ground : FileTree) (cwd : Location) (keep : Bool) (candidate : Candidate) : Prop :=
  keep = false ∧ held? ground cwd candidate = none

instance (ground : FileTree) (cwd : Location) (keep : Bool) (candidate : Candidate) :
    Decidable (Discards ground cwd keep candidate) :=
  inferInstanceAs (Decidable (_ ∧ _))

/-- How the conversion of a candidate ends. -/
def verdict (ground : FileTree) (cwd : Location) (keep : Bool) (candidate : Candidate) : Outcome :=
  match fate ground cwd candidate with
  | .unread error => failed candidate .read error
  | .unwritten error => failed candidate .write error
  | .moved file _ =>
    if keep then done candidate file
    else match held? ground cwd candidate with
      | some error => failed candidate .delete error
      | none => done candidate file

theorem fate_eq_moved_iff {ground : FileTree} {cwd target : Location} {candidate : Candidate}
    {file : Loaded} :
    fate ground cwd candidate = .moved file target ↔ load ground cwd candidate = .ok file ∧
      ground.writeTarget cwd (destinationOf candidate file) = .ok target := by
  unfold fate
  cases load ground cwd candidate with
  | error error => simp
  | ok loaded =>
    dsimp only
    rw [Except.ok.injEq]
    constructor
    · intro moved
      split at moved
      · cases moved
      · next written =>
        obtain ⟨rfl, rfl⟩ := Fate.moved.inj moved
        exact ⟨rfl, written⟩
    · rintro ⟨rfl, written⟩
      simp only [written]

/-- **A file is held** by its directory: the host refuses to remove anything from there. -/
theorem held?_eq {ground : FileTree} {cwd : Location} {candidate : Candidate}
    (site : Site ground cwd candidate) (short : candidate.path.length < 4096) :
    held? ground cwd candidate = Host.unremoved? site.parent := by
  rw [held?, FileTree.removeTarget, site.resolve_eq short, Site.location]
  dsimp only [List.tail_cons]
  cases Host.unremoved? site.parent <;> rfl

section Verdict

variable {ground : FileTree} {cwd target : Location} {keep : Bool} {candidate : Candidate}
  {file : Loaded}

/-- A conversion that moves its file ends well, unless the file is held and has to be removed. -/
theorem verdict_of_moved (moved : fate ground cwd candidate = .moved file target)
    (free : keep = true ∨ held? ground cwd candidate = none) :
    verdict ground cwd keep candidate =
      .converted ⟨candidate.path, destinationOf candidate file⟩ := by
  rcases free with rfl | free
  · simp only [verdict, moved, if_true, done]
  · cases keep <;> simp [verdict, moved, free, done]

theorem verdict_of_held {error : FileError}
    (moved : fate ground cwd candidate = .moved file target)
    (held : held? ground cwd candidate = some error) :
    verdict ground cwd false candidate = failed candidate .delete error := by
  simp [verdict, moved, held]

/-- A conversion that ends well has moved its file. -/
theorem moved_of_verdict {converted : Converted}
    (ended : verdict ground cwd keep candidate = .converted converted) :
    ∃ file target, fate ground cwd candidate = .moved file target ∧
      converted = ⟨candidate.path, destinationOf candidate file⟩ ∧
      (keep = true ∨ held? ground cwd candidate = none) := by
  cases comes : fate ground cwd candidate with
  | unread error | unwritten error => simp [verdict, comes, failed] at ended
  | moved file target =>
    have free : keep = true ∨ held? ground cwd candidate = none := by
      cases keep with
      | true => exact .inl rfl
      | false =>
        cases held : held? ground cwd candidate with
        | none => exact .inr rfl
        | some error => simp [verdict_of_held comes held, failed] at ended
    rw [verdict_of_moved comes free, Outcome.converted.injEq] at ended
    exact ⟨file, target, rfl, ended.symm, free⟩

/-- A conversion that fails has not moved its file, or the file is held and had to be removed. -/
theorem stays_of_verdict {unconverted : Unconverted}
    (ended : verdict ground cwd keep candidate = .unconverted unconverted) :
    candidate.path = unconverted.path ∧ ∀ file target,
      fate ground cwd candidate = .moved file target → keep = false ∧
        unconverted.stage = .delete ∧ held? ground cwd candidate = some unconverted.error := by
  cases comes : fate ground cwd candidate with
  | unread error | unwritten error =>
    simp only [verdict, comes, failed, Outcome.unconverted.injEq] at ended
    subst ended
    exact ⟨rfl, by simp⟩
  | moved file target =>
    cases keep with
    | true => cases (verdict_of_moved comes (.inl rfl)).symm.trans ended
    | false =>
      cases held : held? ground cwd candidate with
      | none => cases (verdict_of_moved comes (.inr held)).symm.trans ended
      | some error =>
        rw [verdict_of_held comes held, failed, Outcome.unconverted.injEq] at ended
        subst ended
        exact ⟨rfl, fun _ _ _ => ⟨rfl, rfl, rfl⟩⟩

end Verdict

/-! ### Candidates with a place each -/

/-- Candidates with a place each, where no other file of theirs stands. One directory has one
front. -/
structure Placed (ground : FileTree) (cwd : Location) (candidates : List Candidate)
    (place : Candidate → Location) (lead : Location → Path) : Prop where
  nodup : candidates.Nodup
  sited : ∀ candidate ∈ candidates, ∃ site : Site ground cwd candidate,
    site.location = place candidate ∧ site.front = lead site.parent
  distinct : ∀ first ∈ candidates, ∀ second ∈ candidates, place first = place second →
    first = second

/-- Candidates with a place each, of which no target is written to a link. -/
structure Apart (ground : FileTree) (cwd : Location) (candidates : List Candidate)
    (place : Candidate → Location) (lead : Location → Path) : Prop
    extends Placed ground cwd candidates place lead where
  unlinked : ∀ candidate ∈ candidates, Unlinked ground cwd candidate

/-- Whether a `.js` file with markup and a `.jsx` file have one stem, and so one target. -/
def Clashes (ground : FileTree) (cwd : Location) (first second : Candidate) : Prop :=
  ∃ stem content text, first = ⟨stem ++ Bytes.ofString Script.Source.js.suffix, .js⟩ ∧
    second = ⟨stem ++ Bytes.ofString Script.Source.jsx.suffix, .jsx⟩ ∧
    ground.readText cwd first.path = .ok (content, text) ∧ hasMarkup text = true

namespace Apart

variable {ground : FileTree} {cwd target : Location} {candidates : List Candidate}
  {place : Candidate → Location} {lead : Location → Path} {candidate other : Candidate}
  {file file' : Loaded}

/-- **Where a moved file goes**: beside its source, under the word of the target. -/
theorem landing (apart : Apart ground cwd candidates place lead) (listed : candidate ∈ candidates)
    (moved : fate ground cwd candidate = .moved file target) :
    ∃ (site : Site ground cwd candidate) (name : Name), site.front = lead site.parent ∧
      load ground cwd candidate = .ok file ∧ target = name :: site.parent ∧
      name.bytes = site.targetWord file.target ∧ TakesFile ground target := by
  obtain ⟨load, written⟩ := fate_eq_moved_iff.mp moved
  obtain ⟨site, -, front⟩ := apart.sited candidate listed
  obtain ⟨-, takes, name, here, bytes⟩ :=
    site.beside_of_writeTarget (apart.unlinked candidate listed file load) written
  exact ⟨site, name, front, load, here, bytes, takes⟩

theorem takesFile (apart : Apart ground cwd candidates place lead)
    (listed : candidate ∈ candidates) (moved : fate ground cwd candidate = .moved file target) :
    TakesFile ground target := by
  obtain ⟨_, _, -, -, -, -, takes⟩ := apart.landing listed moved
  exact takes

/-- **No target is the place of a source.** -/
theorem target_ne (apart : Apart ground cwd candidates place lead)
    (listed : candidate ∈ candidates) (listed' : other ∈ candidates)
    (moved : fate ground cwd candidate = .moved file target) : target ≠ place other := by
  obtain ⟨site, name, -, -, rfl, bytes, -⟩ := apart.landing listed moved
  obtain ⟨site', stands, -⟩ := apart.sited other listed'
  rw [← stands, Site.location]
  intro same
  have named := congrArg Name.bytes (List.cons.inj same).1
  rw [bytes, site'.name_bytes] at named
  exact Script.Target.append_suffix_ne _ _ _ _ named

/-- Targets at one location have one path. -/
theorem destinationOf_eq (apart : Apart ground cwd candidates place lead)
    (listed : candidate ∈ candidates) (listed' : other ∈ candidates)
    (moved : fate ground cwd candidate = .moved file target)
    (moved' : fate ground cwd other = .moved file' target) :
    destinationOf candidate file = destinationOf other file' := by
  obtain ⟨site, name, front, -, here, bytes, -⟩ := apart.landing listed moved
  obtain ⟨site', name', front', -, here', bytes', -⟩ := apart.landing listed' moved'
  obtain ⟨rfl, parents⟩ := List.cons.inj (here.symm.trans here')
  rw [site.destinationOf_eq, site'.destinationOf_eq, front, front', parents, ← bytes, bytes']

/-- Files with one target stand in one directory, so they are held alike. -/
theorem held?_congr (apart : Apart ground cwd candidates place lead)
    (listed : candidate ∈ candidates) (listed' : other ∈ candidates)
    (moved : fate ground cwd candidate = .moved file target)
    (moved' : fate ground cwd other = .moved file' target) :
    held? ground cwd candidate = held? ground cwd other := by
  obtain ⟨site, name, -, load, here, -⟩ := apart.landing listed moved
  obtain ⟨site', name', -, load', here', -⟩ := apart.landing listed' moved'
  obtain ⟨-, parents⟩ := List.cons.inj (here.symm.trans here')
  rw [held?_eq site (site.loaded load).1, held?_eq site' (site'.loaded load').1, parents]

/-- **Two files with one target** are one file, or a `.js` file with markup beside a `.jsx` file. -/
theorem eq_or_clashes (apart : Apart ground cwd candidates place lead)
    (listed : candidate ∈ candidates) (listed' : other ∈ candidates)
    (moved : fate ground cwd candidate = .moved file target)
    (moved' : fate ground cwd other = .moved file' target) :
    candidate = other ∨ Clashes ground cwd candidate other ∨
      Clashes ground cwd other candidate := by
  obtain ⟨site, name, front, load, here, bytes, -⟩ := apart.landing listed moved
  obtain ⟨site', name', front', load', here', bytes', -⟩ := apart.landing listed' moved'
  obtain ⟨rfl, parents⟩ := List.cons.inj (here.symm.trans here')
  -- One directory and one name leave one front and one stem, and only the source is open.
  obtain ⟨stems, targets⟩ := Script.Target.append_suffix_inj (bytes.symm.trans bytes')
  have path := site.divided.path_eq
  have path' := site'.divided.path_eq
  rw [front, parents, ← front', stems, ← List.append_assoc] at path
  rw [← List.append_assoc] at path'
  obtain ⟨-, -, text, read, asked⟩ := site.loaded load
  obtain ⟨-, -, text', read', asked'⟩ := site'.loaded load'
  generalize site'.front ++ site'.stem = stem at path path'
  obtain ⟨_, source⟩ := candidate
  obtain ⟨_, source'⟩ := other
  obtain rfl : _ = stem ++ Bytes.ofString source.suffix := path
  obtain rfl : _ = stem ++ Bytes.ofString source'.suffix := path'
  rw [asked, asked'] at targets
  cases source with
  | js =>
    cases source' with
    | js => exact .inl rfl
    | jsx =>
      refine .inr (.inl ⟨stem, _, text, rfl, rfl, read, ?_⟩)
      by_contra plain
      simp [Script.Source.target, plain] at targets
  | jsx =>
    cases source' with
    | js =>
      refine .inr (.inr ⟨stem, _, text', rfl, rfl, read', ?_⟩)
      by_contra plain
      simp [Script.Source.target, plain] at targets
    | jsx => exact .inl rfl

end Apart

/-- **The candidates of a run have a place each**, the one that their names lead to. -/
theorem exists_placed {ground : FileTree} {cwd home : Location} {root : Path}
    {wanted : List Script.Source} {tokens : List String} {candidates : List Candidate}
    (found : Discovery.candidates ground cwd root wanted tokens = .ok candidates)
    (located : Discovery.locate ground cwd root = .ok home) :
    ∃ place lead, Placed ground cwd candidates place lead ∧ ∀ candidate names content,
      Discovery.Selected ground home root wanted tokens candidate names content →
        place candidate = names.reverse ++ home := by
  classical
  -- The path of a candidate determines the names that lead to it.
  let named (candidate : Candidate) (names : List Name) : Prop :=
    ∃ content, Discovery.Selected ground home root wanted tokens candidate names content
  let place (candidate : Candidate) : Location :=
    if some_ : ∃ names, named candidate names then some_.choose.reverse ++ home else home
  have placed : ∀ candidate names content,
      Discovery.Selected ground home root wanted tokens candidate names content →
        place candidate = names.reverse ++ home := by
    intro candidate names content selected
    have some_ : ∃ names, named candidate names := ⟨names, content, selected⟩
    obtain ⟨_, chosen⟩ := some_.choose_spec
    have same := Discovery.pathOf_injective root (chosen.path_eq.symm.trans selected.path_eq)
    rw [show place candidate = _ from dif_pos some_, same]
  have selected : ∀ candidate ∈ candidates, ∃ names content,
      Discovery.Selected ground home root wanted tokens candidate names content :=
    fun candidate listed => ((Discovery.mem_candidates found located).mp listed).2
  let lead (parent : Location) : Path :=
    (Discovery.pathOf root ((Discovery.below? home parent).getD [])).opened
  refine ⟨place, lead, ⟨Discovery.nodup_candidates found, ?_, ?_⟩, placed⟩
  · intro candidate listed
    obtain ⟨names, content, chosen⟩ := selected candidate listed
    obtain ⟨site, stands, -, before, last, rfl, front, parent⟩ :=
      exists_site_of_selected located chosen
    refine ⟨site, stands.trans (placed _ _ _ chosen).symm, ?_⟩
    rw [front, parent]
    show _ = (Discovery.pathOf root ((Discovery.below? home _).getD [])).opened
    rw [Discovery.below?_eq_some_iff.mpr rfl, Option.getD_some]
  · intro first listed second listed' same
    obtain ⟨names, content, chosen⟩ := selected first listed
    obtain ⟨names', content', chosen'⟩ := selected second listed'
    rw [placed _ _ _ chosen, placed _ _ _ chosen', List.append_cancel_right_eq,
      List.reverse_inj] at same
    subst same
    exact chosen.eq_of_names chosen'

/-- **The candidates of a run stand apart**, when no target is written to a link. -/
theorem exists_apart {ground : FileTree} {cwd home : Location} {root : Path}
    {wanted : List Script.Source} {tokens : List String} {candidates : List Candidate}
    (found : Discovery.candidates ground cwd root wanted tokens = .ok candidates)
    (located : Discovery.locate ground cwd root = .ok home)
    (unlinked : ∀ candidate ∈ candidates, Unlinked ground cwd candidate) :
    ∃ place lead, Apart ground cwd candidates place lead ∧ ∀ candidate names content,
      Discovery.Selected ground home root wanted tokens candidate names content →
        place candidate = names.reverse ++ home :=
  let ⟨place, lead, placed, there⟩ := exists_placed found located
  ⟨place, lead, ⟨placed, unlinked⟩, there⟩

end Retarget.Conversion
