/-
**Where nothing is changed.**

A run is kept out of three kinds of place: what is not below its root, what lies in a directory
whose path some token excludes, and what lies below a name that the walker passes over as hidden.
The tokens are asked about files
only, so that a directory shelters what is in it takes two facts: a token that excludes the
directory excludes all paths below it, and a target stands in the directory of its source. In a tree
without links no run changes anything there.

* `Conversion.Shelters.excludes`: what lies in a sheltered directory is excluded;
* `Conversion.Sheltered`: the places that a run is kept out of;
* `Conversion.not_sheltered_of_selected`: no file in such a place is selected;
* `Conversion.Sheltered.beside`: such a place holds what lies beside a place in it;
* `Conversion.unchanged_of_sheltered`: what stands there is left as it is.
-/

import Retarget.Proofs.Conversion.Preservation
import Retarget.Proofs.Ignore.Directory

namespace Retarget

/-! ### Paths inside a directory -/

namespace Discovery

variable {directory inner : List Name}

theorem pathOf_directory (root : Path) (deep : directory ≠ []) :
    pathOf root directory ≠ [] ∧ (pathOf root directory).getLast? ≠ some Path.slash := by
  obtain ⟨before, last, rfl⟩ := List.eq_nil_or_concat directory |>.resolve_left deep
  rw [List.concat_eq_append, pathOf_append]
  exact ⟨by simp [last.isWord.nonempty], last.isWord.getLast?_append_ne _⟩

/-- **A path inside a directory** is the path of the directory with something behind it. -/
theorem exists_pathOf_inside (root : Path) (directory : List Name) (inside : inner ≠ []) :
    ∃ behind, pathOf root (directory ++ inner) = (pathOf root directory).opened ++ behind := by
  cases inner with
  | nil => exact absurd rfl inside
  | cons name others =>
    obtain ⟨rest, shape, -⟩ := exists_pathOf_eq_append ((pathOf root directory).under name.bytes)
      others
    refine ⟨name.bytes ++ rest, ?_⟩
    calc pathOf root (directory ++ name :: others)
        = pathOf ((pathOf root directory).under name.bytes) others := by
          rw [pathOf, List.foldl_append]
          rfl
      _ = (pathOf root directory).opened ++ (name.bytes ++ rest) := by
          rw [shape, Path.under_eq, List.append_assoc]

end Discovery

namespace Conversion

/-! ### Sheltered places -/

/-- Whether a token shelters what lies in a directory below the root or in the root itself: it
excludes the path of the directory. Where the path of the root ends in `/`, a token that ends so as
well shelters nothing by matching that path. -/
structure Shelters (root : Path) (token : String) (directory : List Name) : Prop where
  excluded : Ignore.tokenExcludes token.toList
    (Utf8.decodeLossy (Discovery.pathOf root directory)) = true
  unslashed : directory = [] → root.getLast? = some Path.slash → token.toList.getLast? ≠ some '/'

/-- **What lies in a sheltered directory** is excluded. -/
theorem Shelters.excludes {root : Path} {token : String} {directory inner : List Name}
    (shelters : Shelters root token directory) (nonempty : root ≠ []) (inside : inner ≠ []) :
    Ignore.tokenExcludes token.toList
      (Utf8.decodeLossy (Discovery.pathOf root (directory ++ inner))) = true := by
  obtain ⟨behind, shape⟩ := Discovery.exists_pathOf_inside root directory inside
  have spelled : Discovery.pathOf root directory ≠ [] := by
    cases directory with
    | nil => exact nonempty
    | cons outer rest => exact (Discovery.pathOf_directory root (by simp)).1
  have unslashed : (Discovery.pathOf root directory).getLast? = some Path.slash →
      token.toList.getLast? ≠ some '/' := by
    cases directory with
    | nil => exact shelters.unslashed rfl
    | cons outer rest =>
      exact fun slashed => absurd slashed (Discovery.pathOf_directory root (by simp)).2
  rw [shape]
  exact Ignore.tokenExcludes_opened spelled shelters.excluded unslashed behind

/-- **The places that a run is kept out of**, for a root that stands at `home` and a rule for hidden
names. -/
inductive Sheltered (hidden : Name → Bool) (home : Location) (settings : Settings)
    (location : Location) : Prop
  /-- What is not below the root. -/
  | outside (apart : ∀ names : List Name, names ≠ [] → location ≠ names.reverse ++ home)
  /-- What lies in a directory whose path some token excludes. -/
  | excluded (directory inner : List Name) (inside : inner ≠ [])
      (here : location = (directory ++ inner).reverse ++ home) (token : String)
      (given : token ∈ settings.tokens) (shelters : Shelters settings.root token directory)
  /-- What has a hidden name or lies below one. -/
  | hidden (outer inner : List Name) (name : Name) (concealed : hidden name = true)
      (here : location = (outer ++ name :: inner).reverse ++ home)

section Places

variable [Host] {tree : FileTree} {home parent location : Location} {settings : Settings}
  {hidden : Name → Bool} {candidate : Candidate} {names : List Name} {content : Bytes}
  {first second : Name}

/-- What a rule of the walker shelters. -/
theorem Sheltered.hides (sheltered : Sheltered hidden home settings location)
    (passed : Host.PassesOver hidden) : Sheltered Host.hides home settings location := by
  cases sheltered with
  | outside apart => exact .outside apart
  | excluded directory inner inside here token given shelters =>
    exact .excluded directory inner inside here token given shelters
  | hidden outer inner name concealed here =>
    exact .hidden outer inner name (passed name concealed) here

/-- **No file in a sheltered place** is selected. -/
theorem not_sheltered_of_selected (nonempty : settings.root ≠ [])
    (selected : Discovery.Selected tree home settings.root settings.sources settings.tokens
      candidate names content) :
    ¬ Sheltered Host.hides home settings (names.reverse ++ home) := by
  intro sheltered
  cases sheltered with
  | outside apart => exact apart names selected.nonempty rfl
  | excluded directory inner inside here token given shelters =>
    rw [List.append_cancel_right_eq, List.reverse_inj] at here
    subst here
    have excluded : Discovery.isExcluded settings.tokens candidate = true := by
      rw [Discovery.isExcluded, selected.path_eq]
      exact List.any_eq_true.mpr ⟨token, given, shelters.excludes nonempty inside⟩
    rw [selected.kept] at excluded
    cases excluded
  | hidden outer inner name concealed here =>
    rw [List.append_cancel_right_eq, List.reverse_inj] at here
    have visible := selected.visible name (by simp [here])
    rw [concealed] at visible
    cases visible

omit [Host] in
/-- **What lies beside a sheltered place** is sheltered as well, when both names are hidden or
neither is. -/
theorem Sheltered.beside (sheltered : Sheltered hidden home settings (first :: parent))
    (alike : hidden first = hidden second) :
    Sheltered hidden home settings (second :: parent) := by
  cases sheltered with
  | outside apart =>
    refine .outside fun names deep here => ?_
    obtain ⟨before, last, rfl⟩ := List.eq_nil_or_concat names |>.resolve_left deep
    obtain ⟨-, rfl⟩ : second = last ∧ parent = before.reverse ++ home := by
      simpa using here
    exact apart (before ++ [first]) (by simp) (by simp)
  | excluded directory inner inside here token given shelters =>
    obtain ⟨before, last, rfl⟩ := List.eq_nil_or_concat inner |>.resolve_left inside
    obtain ⟨-, rfl⟩ : first = last ∧ parent = before.reverse ++ (directory.reverse ++ home) := by
      simpa using here
    exact .excluded directory (before ++ [second]) (by simp) (by simp) token given shelters
  | hidden outer inner name concealed here =>
    -- The hidden name is that of the place itself or stands above it.
    obtain rfl | ⟨before, last, rfl⟩ := List.eq_nil_or_concat inner
    · obtain ⟨rfl, rfl⟩ : first = name ∧ parent = outer.reverse ++ home := by simpa using here
      exact .hidden outer [] second (alike ▸ concealed) (by simp)
    · obtain ⟨-, rfl⟩ : first = last ∧ parent = before.reverse ++ name :: (outer.reverse ++ home) := by
        simpa using here
      exact .hidden outer (before ++ [second]) name concealed (by simp)

end Places

/-! ### Runs -/

section Runs

variable [Host] {tree : FileTree} {cwd location : Location} {settings : Settings}
  {hidden : Name → Bool}

/-- **What stands in a sheltered place** is left as it is, in a tree without links, whether the run
fails or ends with a report. The hidden names may be any that the walker passes over. -/
theorem unchanged_of_sheltered (plain : tree.IsPlain) (passed : Host.PassesOver hidden)
    (sheltered : ∀ home, Discovery.locate tree cwd settings.root = .ok home →
      Sheltered hidden home settings location) :
    (run tree cwd settings).tree.get? location = tree.get? location ∧
      ∀ after, MayLeave tree cwd settings after → after.get? location = tree.get? location := by
  have kept : ∀ after, MayLeave tree cwd settings after →
      after.get? location = tree.get? location := by
    intro after leaves
    unfold MayLeave at leaves
    split at leaves
    · rw [leaves]
    · obtain ⟨report, candidates, order, outcomes, found, perm, steps, -⟩ := leaves
      obtain ⟨home, located⟩ := Discovery.locate_of_candidates found
      have sheltered := (sheltered home located).hides passed
      have nonempty := (Discovery.reaches_root located).1
      obtain ⟨place, lead, apart, placed⟩ := exists_apart_of_isPlain plain found located
      have free : ∀ candidate ∈ candidates,
          ¬ Sheltered Host.hides home settings (place candidate) := by
        intro candidate listed
        obtain ⟨-, names, content, chosen⟩ :=
          (Discovery.mem_candidates found located).mp listed
        rw [placed candidate names content chosen]
        exact not_sheltered_of_selected nonempty chosen
      obtain ⟨settled, -⟩ := Schedule.settled_of_steps apart perm steps rfl rfl
      refine settled.untouched location ?_ ?_
      · rintro candidate listed - file target - rfl
        exact free candidate listed sheltered
      · intro candidate listed file moved
        obtain ⟨load, written⟩ := fate_eq_moved_iff.mp moved
        obtain ⟨site, here, -⟩ := apart.sited candidate listed
        obtain ⟨-, -, name, rfl, bytes⟩ :=
          site.beside_of_writeTarget (apart.unlinked candidate listed file load) written
        -- The source stands beside its target, so it would be sheltered too.
        refine free candidate listed ?_
        rw [← here]
        exact sheltered.beside (site.hides_of_targetWord bytes)
  exact ⟨kept _ (mayLeave_of_run tree cwd settings), kept⟩

end Runs

/-! ### An excluded directory, and a root with a slash at its end -/

namespace Barred

/-- A file below the root, and one in a directory. -/
def tree : FileTree :=
  (FileTree.empty.plant [] (Bytes.ofString "r/a.jsx") (.file [])).plant []
    (Bytes.ofString "r/dist/b.jsx") (.file [])

def settings (root : String) (tokens : List String) : Settings where
  root := Bytes.ofString root
  tokens := tokens

def home : Location := Location.ofTexts ["r"]

def candidate : Candidate := ⟨Bytes.ofString "r/a.jsx", .jsx⟩

/-- The tree with the target in the place of the file below the root. -/
def moved : FileTree :=
  (tree.put (Location.ofTexts ["r", "a.tsx"]) (.file [])).erase (Location.ofTexts ["r", "a.jsx"])

theorem isPlain : tree.IsPlain := by
  have entries : tree.entries = [(Location.ofTexts ["r"], .directory),
      (Location.ofTexts ["r", "a.jsx"], .file []), (Location.ofTexts ["r", "dist"], .directory),
      (Location.ofTexts ["r", "dist", "b.jsx"], .file [])] := by cbv
  refine FileTree.isPlain_of_entries fun place inside target => ?_
  simp only [entries, List.mem_cons, List.not_mem_nil, or_false] at inside
  rcases inside with rfl | rfl | rfl | rfl <;> simp

theorem candidates_eq : Discovery.candidates tree [] (Bytes.ofString "r/") Script.Source.all
    ["r/", "dist"] = .ok [candidate] := by cbv

theorem convert_candidate : convert [] false tree candidate =
    (moved, .converted ⟨candidate.path, Bytes.ofString "r/a.tsx"⟩) := by cbv

end Barred

/-- A file in an excluded directory is left as it is. -/
theorem unchanged_of_sheltered_dist :
    (run Barred.tree [] (Barred.settings "r" ["dist"])).tree.get?
        (Location.ofTexts ["r", "dist", "b.jsx"]) =
      Barred.tree.get? (Location.ofTexts ["r", "dist", "b.jsx"]) := by
  have located : Discovery.locate Barred.tree [] (Bytes.ofString "r") = .ok Barred.home := by cbv
  have shelters : Shelters (Bytes.ofString "r") "dist" (Location.ofTexts ["dist"]) :=
    ⟨by cbv, fun none => absurd none (by decide)⟩
  have passed : Host.PassesOver Name.isDotted := fun _ => id
  refine (unchanged_of_sheltered Barred.isPlain passed fun home here => ?_).1
  obtain rfl : Barred.home = home := Except.ok.inj (located.symm.trans here)
  exact .excluded (Location.ofTexts ["dist"]) (Location.ofTexts ["b.jsx"]) (by decide) (by decide)
    "dist" List.mem_cons_self shelters

/-- **A root with a slash at its end** is not sheltered by the token that it is. -/
theorem changed_below_slashed_root :
    Barred.tree.IsPlain ∧
      Discovery.locate Barred.tree [] (Bytes.ofString "r/") = .ok Barred.home ∧
      Ignore.excludes ["r/", "dist"]
        (Utf8.decodeLossy (Discovery.pathOf (Bytes.ofString "r/") [])) = true ∧
      Barred.tree.get? (Location.ofTexts ["a.jsx"] ++ Barred.home) = some (.file []) ∧
      (run Barred.tree [] (Barred.settings "r/" ["r/", "dist"])).tree.get?
        (Location.ofTexts ["a.jsx"] ++ Barred.home) = none := by
  refine ⟨Barred.isPlain, by cbv, by cbv, by cbv, ?_⟩
  have left : (run Barred.tree [] (Barred.settings "r/" ["r/", "dist"])).tree =
      (convertAll [] false Barred.tree [Barred.candidate]).tree :=
    (run_of_candidates Barred.candidates_eq).1
  rw [left, convertAll, Barred.convert_candidate]
  cbv

end Conversion

end Retarget
