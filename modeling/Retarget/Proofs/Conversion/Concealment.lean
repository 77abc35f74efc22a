/-
**What no run can tell apart.**

A run walks through excluded directories and asks its tokens about files only, yet it does not
depend on what lies below such a directory or below a hidden one. No candidate stands there, no
target goes there, and what a conversion does is decided by what stands in the directory of its
file. So two trees without links that differ only there are the same to a run: it finds the same
files, reports and prints the same, and makes the same changes.

* `Conversion.Concealed`: what lies below an excluded or a hidden directory;
* `Conversion.Parallel`: two trees in the midst of two runs;
* `Conversion.Parallel.convert` and `Conversion.Parallel.convertAll`: one conversion and all of
  them, side by side;
* `Conversion.candidates_eq_of_concealed`: the files that are found;
* `Conversion.same_of_concealed`: what the two runs report, print and change.
-/

import Retarget.Proofs.Conversion.Account
import Retarget.Proofs.Conversion.Delivery
import Retarget.Proofs.Conversion.Shelter
import Retarget.Proofs.Conversion.Verdict
import Retarget.Proofs.Discovery.Renewal
import Retarget.Proofs.FileTree.Plain

namespace Retarget.Conversion

open FileTree (SameFrame)
open Notice (sent)

/-! ### Concealed places -/

/-- **Whether a place is concealed** below a root that stands at `home`: it lies strictly below a
directory under the root whose path some token excludes or whose name is hidden, by some rule. -/
def Concealed (hidden : Name → Bool) (home : Location) (settings : Settings)
    (location : Location) : Prop :=
  ∃ directory inner : List Name, directory ≠ [] ∧ inner ≠ [] ∧
    location = (directory ++ inner).reverse ++ home ∧
    (Ignore.excludes settings.tokens
        (Utf8.decodeLossy (Discovery.pathOf settings.root directory)) = true ∨
      ∃ name, directory.getLast? = some name ∧ hidden name = true)

section Places

variable {tree : FileTree} {home parent location : Location} {settings : Settings}
  {hidden : Name → Bool} {candidate : Candidate} {names : List Name} {content : Bytes}
  {first second : Name}

/-- **What lies beside a concealed place** is concealed as well. -/
theorem Concealed.beside (concealed : Concealed hidden home settings (first :: parent)) :
    Concealed hidden home settings (second :: parent) := by
  obtain ⟨directory, inner, deep, inside, here, veiled⟩ := concealed
  obtain ⟨before, last, rfl⟩ := List.eq_nil_or_concat inner |>.resolve_left inside
  obtain ⟨-, rfl⟩ : first = last ∧ parent = before.reverse ++ (directory.reverse ++ home) := by
    simpa using here
  exact ⟨directory, before ++ [second], deep, by simp, by simp, veiled⟩

/-- A run is kept out of concealed places. -/
theorem Concealed.sheltered (concealed : Concealed hidden home settings location) :
    Sheltered hidden home settings location := by
  obtain ⟨directory, inner, deep, inside, here, excluded | ⟨name, last, veiled⟩⟩ := concealed
  · obtain ⟨token, given, excludes⟩ := List.any_eq_true.mp excluded
    exact .excluded directory inner inside here token given ⟨excludes, fun none => absurd none deep⟩
  · obtain ⟨outer, rfl⟩ := List.getLast?_eq_some_iff.mp last
    exact .hidden outer inner name veiled (by rw [here, List.append_assoc, List.singleton_append])

theorem not_concealed_of_selected [Host] (passed : Host.PassesOver hidden)
    (nonempty : settings.root ≠ [])
    (selected : Discovery.Selected tree home settings.root settings.sources settings.tokens
      candidate names content) :
    ¬ Concealed hidden home settings (names.reverse ++ home) :=
  fun concealed => not_sheltered_of_selected nonempty selected (concealed.sheltered.hides passed)

end Places

/-! ### Two runs side by side -/

/-- **Two trees in the midst of two runs**, which have left alone what is concealed and agree on all
else. -/
structure Parallel (hidden : Name → Bool) (home : Location) (settings : Settings)
    (ground ground' tree tree' : FileTree) : Prop where
  frame : SameFrame ground tree
  frame' : SameFrame ground' tree'
  seen : ∀ location, ¬ Concealed hidden home settings location →
    tree'.get? location = tree.get? location
  kept : ∀ location, Concealed hidden home settings location →
    tree.get? location = ground.get? location ∧ tree'.get? location = ground'.get? location

/-- Whether a candidate stands in two trees at one place that is not concealed, with one path to its
directory. -/
def StandsInBoth (hidden : Name → Bool) (home : Location) (settings : Settings)
    (ground ground' : FileTree) (cwd : Location) (candidate : Candidate) : Prop :=
  ∃ (site : Site ground cwd candidate) (site' : Site ground' cwd candidate),
    site'.front = site.front ∧ site'.location = site.location ∧
      ¬ Concealed hidden home settings site.location

section Parallel

variable [Host] {hidden : Name → Bool} {home cwd : Location} {settings : Settings}
  {ground ground' tree tree' : FileTree} {keep : Bool} {candidate : Candidate}
  {candidates : List Candidate} {file : Loaded} {target : Location}

omit [Host] in
/-- What is loaded stands at the site. -/
theorem stands_of_load (site : Site ground cwd candidate) (same : SameFrame ground tree)
    (loads : load tree cwd candidate = .ok file) :
    tree.get? site.location = some (.file file.content) := by
  have read := read_of_load loads
  rw [site.read_eq same] at read
  split at read
  · cases read
  · rw [FileTree.contentAt] at read
    split at read
    · next present =>
      rw [present, Except.ok.inj read]
    · cases read
    · cases read

/-- What a conversion changes in the midst of a run when it moves its file. -/
theorem get?_of_moved_behind (keep : Bool) (site : Site ground cwd candidate)
    (same : SameFrame ground tree) (moved : fate tree cwd candidate = .moved file target) :
    SameFrame tree (Conversion.convert cwd keep tree candidate).1 ∧
      ∀ place, (Conversion.convert cwd keep tree candidate).1.get? place =
        if Discards tree cwd keep candidate ∧ place = site.location then none
        else if place = target then some (.file file.content) else tree.get? place :=
  get?_of_moved keep (site.renew same (stands_of_load site same (fate_eq_moved_iff.mp moved).1))
    moved

/-- Where no links are, a moved file goes beside its source. -/
theorem beside_of_moved (site : Site ground cwd candidate) (same : SameFrame ground tree)
    (plain : ground.IsPlain) (moved : fate tree cwd candidate = .moved file target) :
    ∃ name, target = name :: site.parent := by
  obtain ⟨loads, written⟩ := fate_eq_moved_iff.mp moved
  have present := stands_of_load site same loads
  have unlinked := unlinked_of_isPlain (site.renew same present) (.congr same plain)
  obtain ⟨-, -, name, here, -⟩ :=
    (site.renew same present).beside_of_writeTarget (unlinked file loads) written
  exact ⟨name, here⟩

/-- **What a conversion comes to** is the same in both trees, and whether its file is held. -/
theorem Parallel.fate_eq (parallel : Parallel hidden home settings ground ground' tree tree')
    (plain : ground.IsPlain) (plain' : ground'.IsPlain)
    (stands : StandsInBoth hidden home settings ground ground' cwd candidate) :
    fate tree' cwd candidate = fate tree cwd candidate ∧
      held? tree' cwd candidate = held? tree cwd candidate := by
  obtain ⟨site, site', front, here, seen⟩ := stands
  obtain ⟨-, parent⟩ := List.cons.inj here
  have reaches := site.reaches.congr parallel.frame
  have reaches' := site'.reaches.congr parallel.frame'
  rw [front, parent] at reaches'
  have alike : ∀ name, tree'.get? (name :: site.parent) = tree.get? (name :: site.parent) :=
    fun name => parallel.seen _ fun concealed => seen concealed.beside
  have resolves : ∀ {word : Bytes}, Path.IsWord word → 0 ∉ word → ∀ purpose,
      tree'.resolve cwd purpose (site.front ++ word) =
        tree.resolve cwd purpose (site.front ++ word) :=
    reaches.resolve_alike reaches' (.congr parallel.frame plain) (.congr parallel.frame' plain')
      alike
  have source : ∀ purpose, tree'.resolve cwd purpose candidate.path =
      tree.resolve cwd purpose candidate.path := by
    rw [site.path_eq]
    exact resolves site.name.isWord site.name.zero_notMem
  have loads : load tree' cwd candidate = load tree cwd candidate := by
    rw [load, load, FileTree.readText, FileTree.readText, FileTree.read, FileTree.read, source]
  refine ⟨?_, by rw [held?, held?, FileTree.removeTarget, FileTree.removeTarget, source]⟩
  rw [fate, fate, loads]
  cases load tree cwd candidate with
  | error error => rfl
  | ok file =>
    dsimp only
    rw [site.destinationOf_eq, FileTree.writeTarget, FileTree.writeTarget,
      resolves (site.isWord_targetWord _) (site.zero_notMem_targetWord _)]

/-- **One conversion in both trees** ends the same way and changes them alike. -/
theorem Parallel.convert (keep : Bool)
    (parallel : Parallel hidden home settings ground ground' tree tree')
    (plain : ground.IsPlain) (plain' : ground'.IsPlain)
    (stands : StandsInBoth hidden home settings ground ground' cwd candidate) :
    (Conversion.convert cwd keep tree' candidate).2 =
        (Conversion.convert cwd keep tree candidate).2 ∧
      Parallel hidden home settings ground ground' (Conversion.convert cwd keep tree candidate).1
        (Conversion.convert cwd keep tree' candidate).1 := by
  obtain ⟨fates, holds⟩ := parallel.fate_eq plain plain' stands
  refine ⟨by rw [convert_verdict, convert_verdict, verdict, verdict, fates, holds], ?_⟩
  by_cases moves : ∃ file target, fate tree cwd candidate = .moved file target
  · obtain ⟨file, target, moved⟩ := moves
    obtain ⟨site, site', front, here, seen⟩ := stands
    obtain ⟨same, view⟩ := get?_of_moved_behind keep site parallel.frame moved
    obtain ⟨same', view'⟩ := get?_of_moved_behind keep site' parallel.frame' (fates.trans moved)
    have discards : Discards tree' cwd keep candidate ↔ Discards tree cwd keep candidate := by
      rw [Discards, Discards, holds]
    obtain ⟨name, rfl⟩ := beside_of_moved site parallel.frame plain moved
    -- The two locations that change lie in the directory of the file, which is not concealed.
    have apart : ∀ location, Concealed hidden home settings location →
        location ≠ site.location ∧ location ≠ name :: site.parent := by
      refine fun location concealed => ⟨?_, ?_⟩
      · rintro rfl
        exact seen concealed
      · rintro rfl
        exact seen concealed.beside
    refine ⟨parallel.frame.trans same, parallel.frame'.trans same', fun location open_ => ?_,
      fun location concealed => ?_⟩
    · simp only [view, view', here, discards, parallel.seen location open_]
    · obtain ⟨off, beside⟩ := apart location concealed
      rw [view, view', here, if_neg fun both => off both.2, if_neg beside,
        if_neg fun both => off both.2, if_neg beside]
      exact parallel.kept location concealed
  · have stays : ∀ file target, fate tree cwd candidate ≠ .moved file target :=
      fun file target moved => moves ⟨file, target, moved⟩
    rw [convert_of_stays stays, convert_of_stays (by rwa [fates])]
    exact parallel

/-- **All conversions in both trees**, one after another, end the same way and change them alike. -/
theorem Parallel.convertAll (keep : Bool)
    (parallel : Parallel hidden home settings ground ground' tree tree') (plain : ground.IsPlain)
    (plain' : ground'.IsPlain)
    (stand : ∀ candidate ∈ candidates,
      StandsInBoth hidden home settings ground ground' cwd candidate) :
    (Conversion.convertAll cwd keep tree' candidates).outcomes =
        (Conversion.convertAll cwd keep tree candidates).outcomes ∧
      Parallel hidden home settings ground ground'
        (Conversion.convertAll cwd keep tree candidates).tree
        (Conversion.convertAll cwd keep tree' candidates).tree := by
  induction candidates generalizing tree tree' with
  | nil => exact ⟨rfl, parallel⟩
  | cons candidate rest ih =>
    obtain ⟨here, behind⟩ := List.forall_mem_cons.mp stand
    obtain ⟨ended, further⟩ := parallel.convert keep plain plain' here
    obtain ⟨outcomes, left⟩ := ih further behind
    rw [Conversion.convertAll, Conversion.convertAll]
    exact ⟨congrArg₂ List.cons ended outcomes, left⟩

end Parallel

/-! ### Two runs -/

/-- Whether two trees are changed alike: where one of them is changed, they were the same and are
the same. -/
def SameChanges (tree after tree' after' : FileTree) : Prop :=
  ∀ location,
    (after.get? location = tree.get? location ∧ after'.get? location = tree'.get? location) ∨
    (tree'.get? location = tree.get? location ∧ after'.get? location = after.get? location)

section Runs

variable {hidden : Name → Bool} {tree tree' : FileTree} {cwd home : Location} {settings : Settings}
  {candidates candidates' : List Candidate} {candidate : Candidate}

/-- Trees that agree on all that is not concealed are parallel in front of a run. -/
theorem Parallel.refl
    (seen : ∀ location, ¬ Concealed hidden home settings location →
      tree'.get? location = tree.get? location) :
    Parallel hidden home settings tree tree' tree tree' :=
  ⟨.refl tree, .refl tree', seen, fun _ _ => ⟨rfl, rfl⟩⟩

theorem Parallel.sameChanges {after after' : FileTree}
    (seen : ∀ location, ¬ Concealed hidden home settings location →
      tree'.get? location = tree.get? location)
    (parallel : Parallel hidden home settings tree tree' after after') :
    SameChanges tree after tree' after' := by
  intro location
  by_cases concealed : Concealed hidden home settings location
  · exact .inl (parallel.kept location concealed)
  · exact .inr ⟨seen location concealed, parallel.seen location concealed⟩

variable [Host]

/-- A file that is selected in one tree is selected in the other. -/
theorem selected_of_seen {names : List Name} {content : Bytes} (passed : Host.PassesOver hidden)
    (nonempty : settings.root ≠ [])
    (seen : ∀ location, ¬ Concealed hidden home settings location →
      tree'.get? location = tree.get? location)
    (selected : Discovery.Selected tree home settings.root settings.sources settings.tokens
      candidate names content) :
    Discovery.Selected tree' home settings.root settings.sources settings.tokens candidate names
      content :=
  { selected with
    stands := (seen _ (not_concealed_of_selected passed nonempty selected)).trans selected.stands }

/-- **The files that are found** do not depend on what is concealed. -/
theorem candidates_eq_of_concealed (plain : tree.IsPlain) (plain' : tree'.IsPlain)
    (passed : Host.PassesOver hidden)
    (located : Discovery.locate tree cwd settings.root = .ok home)
    (seen : ∀ location, ¬ Concealed hidden home settings location →
      tree'.get? location = tree.get? location)
    (found : Discovery.candidates tree cwd settings.root settings.sources settings.tokens =
      .ok candidates)
    (found' : Discovery.candidates tree' cwd settings.root settings.sources settings.tokens =
      .ok candidates') :
    candidates' = candidates ∧
      ∀ candidate ∈ candidates, StandsInBoth hidden home settings tree tree' cwd candidate := by
  obtain ⟨home', located'⟩ := Discovery.locate_of_candidates found'
  obtain rfl := Discovery.locate_eq_of_isPlain plain plain' located located'
  have nonempty := (Discovery.reaches_root located).1
  refine ⟨Discovery.candidates_eq_of_mem_iff found' found fun candidate => ?_, ?_⟩
  · rw [Discovery.mem_candidates found located, Discovery.mem_candidates found' located']
    refine and_congr_right fun _ => exists_congr fun names => exists_congr fun content => ?_
    exact ⟨selected_of_seen passed nonempty fun location open_ => (seen location open_).symm,
      selected_of_seen passed nonempty seen⟩
  · intro candidate listed
    obtain ⟨-, names, content, selected⟩ := (Discovery.mem_candidates found located).mp listed
    have selected' := selected_of_seen passed nonempty seen selected
    obtain ⟨site, here, -, before, last, rfl, front, -⟩ := exists_site_of_selected located selected
    obtain ⟨site', here', -, before', last', split, front', -⟩ :=
      exists_site_of_selected located' selected'
    obtain ⟨rfl, -⟩ := List.append_inj' split rfl
    refine ⟨site, site', front'.trans front.symm, here'.trans here.symm, ?_⟩
    rw [here]
    exact not_concealed_of_selected passed nonempty selected

/-- **What is concealed** makes no difference to a run. In two trees without links that agree on all
else, a run that finds files in both finds the same ones, ends with the same report, prints the same
and changes both trees alike. The hidden names may be any that the walker passes over. -/
theorem same_of_concealed (plain : tree.IsPlain) (plain' : tree'.IsPlain)
    (passed : Host.PassesOver hidden)
    (located : Discovery.locate tree cwd settings.root = .ok home)
    (seen : ∀ location, ¬ Concealed hidden home settings location →
      tree'.get? location = tree.get? location)
    (found : Discovery.candidates tree cwd settings.root settings.sources settings.tokens =
      .ok candidates)
    (found' : Discovery.candidates tree' cwd settings.root settings.sources settings.tokens =
      .ok candidates') :
    candidates' = candidates ∧
      (run tree' cwd settings).result = (run tree cwd settings).result ∧
      sent .output (run tree' cwd settings).notices = sent .output (run tree cwd settings).notices ∧
      sent .errors (run tree' cwd settings).notices = sent .errors (run tree cwd settings).notices ∧
      SameChanges tree (run tree cwd settings).tree tree' (run tree' cwd settings).tree := by
  obtain ⟨same, stand⟩ := candidates_eq_of_concealed plain plain' passed located seen found found'
  subst same
  obtain ⟨outcomes, parallel⟩ :=
    (Parallel.refl seen).convertAll settings.keepOriginals plain plain' stand
  have told : ∀ {channel : Channel}, channel ≠ .log →
      sent channel (convertAll cwd settings.keepOriginals tree' candidates').notices =
        sent channel (convertAll cwd settings.keepOriginals tree candidates').notices := by
    intro channel printed
    obtain ⟨output, errors⟩ := sent_convertAll cwd settings.keepOriginals tree candidates'
    obtain ⟨output', errors'⟩ := sent_convertAll cwd settings.keepOriginals tree' candidates'
    cases channel with
    | output => rw [output, output', outcomes]
    | errors => rw [errors, errors', outcomes]
    | log => exact absurd rfl printed
  have alike : (run tree cwd settings).Alike (run tree' cwd settings) := by
    rw [run_eq_around found, run_eq_around found']
    exact alike_around rfl candidates' outcomes told
  refine ⟨rfl, alike.result, alike.sent (by decide), alike.sent (by decide), ?_⟩
  rw [(run_of_candidates found).1, (run_of_candidates found').1]
  exact parallel.sameChanges seen

end Runs

/-! ### Files below an excluded and a hidden directory -/

namespace Veiled

/-- A file to convert, one in an excluded directory and one in a hidden directory. -/
def tree : FileTree :=
  ((FileTree.empty.plant [] (Bytes.ofString "r/a.jsx") (.file [])).plant []
    (Bytes.ofString "r/dist/b.jsx") (.file [])).plant [] (Bytes.ofString "r/.git/c.jsx") (.file [])

def settings : Settings where
  root := Bytes.ofString "r"
  tokens := Ignore.defaultTokens

def home : Location := Location.ofTexts ["r"]

def excluded : Location := Location.ofTexts ["r", "dist", "b.jsx"]

def hidden : Location := Location.ofTexts ["r", ".git", "c.jsx"]

/-- The tree with another file in the excluded directory, and none in the hidden one. -/
def other : FileTree := (tree.put excluded (.file [0xFF])).erase hidden

def candidate : Candidate := ⟨Bytes.ofString "r/a.jsx", .jsx⟩

theorem isPlain : tree.IsPlain := by
  have entries : tree.entries = [(Location.ofTexts ["r"], .directory),
      (Location.ofTexts ["r", "a.jsx"], .file []), (Location.ofTexts ["r", "dist"], .directory),
      (excluded, .file []), (Location.ofTexts ["r", ".git"], .directory),
      (hidden, .file [])] := by cbv
  refine FileTree.isPlain_of_entries fun place inside target => ?_
  simp only [entries, List.mem_cons, List.not_mem_nil, or_false] at inside
  rcases inside with rfl | rfl | rfl | rfl | rfl | rfl <;> simp

theorem get?_tree : tree.get? excluded = some (.file []) ∧ tree.get? hidden = some (.file []) :=
  ⟨by cbv, by cbv⟩

theorem get?_other (location : Location) : other.get? location =
    if location = hidden then none
    else if location = excluded then some (.file [0xFF]) else tree.get? location := by
  have free : tree.get? excluded ≠ some .directory := by
    rw [get?_tree.1]
    simp
  have admitted : tree.Admits excluded := ⟨by cbv, free⟩
  have present : (tree.put excluded (.file [0xFF])).get? hidden = some (.file []) := by
    rw [FileTree.get?_put _ _ admitted, if_neg (by decide), get?_tree.2]
  rw [other, FileTree.get?_erase _ (by rw [present]; simp), FileTree.get?_put _ _ admitted]

theorem isPlain_other : other.IsPlain := by
  intro location target link
  rw [get?_other] at link
  split at link
  · cases link
  · split at link
    · cases link
    · exact isPlain location target link

theorem concealed_excluded : Concealed Name.isDotted home settings excluded :=
  ⟨Location.ofTexts ["dist"], Location.ofTexts ["b.jsx"], by decide, by decide, by decide,
    .inl (by cbv)⟩

theorem concealed_hidden : Concealed Name.isDotted home settings hidden :=
  ⟨Location.ofTexts [".git"], Location.ofTexts ["c.jsx"], by decide, by decide, by decide,
    .inr ⟨⟨Bytes.ofString ".git", by decide⟩, by decide, by decide⟩⟩

theorem get?_other_of_seen (location : Location)
    (seen : ¬ Concealed Name.isDotted home settings location) :
    other.get? location = tree.get? location := by
  rw [get?_other, if_neg, if_neg]
  · rintro rfl
    exact seen concealed_excluded
  · rintro rfl
    exact seen concealed_hidden

end Veiled

/-- Files in an excluded directory and in a hidden one make no difference. -/
theorem same_of_concealed_veiled :
    Veiled.tree.get? Veiled.excluded ≠ Veiled.other.get? Veiled.excluded ∧
      Veiled.tree.get? Veiled.hidden ≠ Veiled.other.get? Veiled.hidden ∧
      sent .output (run Veiled.other [] Veiled.settings).notices =
        sent .output (run Veiled.tree [] Veiled.settings).notices ∧
      SameChanges Veiled.tree (run Veiled.tree [] Veiled.settings).tree Veiled.other
        (run Veiled.other [] Veiled.settings).tree := by
  have located : Discovery.locate Veiled.tree [] Veiled.settings.root = .ok Veiled.home := by cbv
  have found : Discovery.candidates Veiled.tree [] Veiled.settings.root Veiled.settings.sources
      Veiled.settings.tokens = .ok [Veiled.candidate] := by cbv
  have found' : Discovery.candidates Veiled.other [] Veiled.settings.root Veiled.settings.sources
      Veiled.settings.tokens = .ok [Veiled.candidate] := by cbv
  have passed : Host.PassesOver Name.isDotted := fun _ => id
  obtain ⟨-, -, output, -, changes⟩ := same_of_concealed Veiled.isPlain Veiled.isPlain_other passed
    located Veiled.get?_other_of_seen found found'
  refine ⟨?_, ?_, output, changes⟩
  · rw [Veiled.get?_other, Veiled.get?_tree.1, if_neg (by decide), if_pos rfl]
    simp
  · rw [Veiled.get?_other, Veiled.get?_tree.2, if_pos rfl]
    simp

end Retarget.Conversion
