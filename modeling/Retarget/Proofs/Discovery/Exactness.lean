/-
**The list of a search, exactly.**

A walk goes from the root through directories whose names are not hidden, and opens each of them by
its path. When all of them open, the search ends with a list, and the list holds each file once that
stands in a directory of the walk and has the right name and path, in the strict order of the
components of the paths. So the list is a matter of what stands where in the tree, and not of the
order in which the entries of a directory come. When a directory does not open, because its path is
too long or the host refuses to list it, the search fails with the path of such a directory.

* `Discovery.Visits`: the walk, directory by directory;
* `Discovery.Opens`: a directory of the walk can be opened by its path;
* `Discovery.Listed`: the files of the list, each with its source;
* `Discovery.mem_candidates_iff_listed`: a candidate is a listed file;
* `Discovery.strict_candidates`: the list is strictly increasing;
* `Discovery.candidates_exact`: the list, and the failure without one.
-/

import Mathlib
import Retarget.FileTree.Build
import Retarget.Proofs.Conversion.Site
import Retarget.Proofs.Discovery.Renewal

namespace Retarget.Discovery

open FileTree (Same SameFrame)

section Search

variable {tree other : FileTree} {cwd home place : Location} {root : Path} {hidden : Name → Bool}
  {wanted : List Script.Source} {tokens : List String} {list : List Candidate}
  {names outer : List Name} {name last : Name} {source : Script.Source} {candidate : Candidate}

/-! ### The walk -/

/-- Whether a walk from one directory visits another one, by names that are not hidden. -/
inductive Visits (hidden : Name → Bool) (tree : FileTree) :
    Location → List Name → Location → Prop where
  | here {home : Location} : Visits hidden tree home [] home
  | down {home place : Location} {name : Name} {names : List Name} : hidden name = false →
      tree.get? (name :: home) = some .directory → Visits hidden tree (name :: home) names place →
        Visits hidden tree home (name :: names) place

/-- A walk visits the directories below its start that no hidden name leads to. -/
theorem visits_iff : Visits hidden tree home names place ↔ place = names.reverse ++ home ∧
    (∀ name ∈ names, hidden name = false) ∧
      (names = [] ∨ tree.get? place = some .directory) := by
  induction names generalizing home with
  | nil =>
    constructor
    · rintro ⟨⟩
      exact ⟨rfl, by simp, .inl rfl⟩
    · rintro ⟨rfl, -, -⟩
      exact .here
  | cons name rest ih =>
    rw [List.reverse_cons, List.append_assoc, List.singleton_append, List.forall_mem_cons]
    constructor
    · rintro (_ | ⟨shown, directory, visits⟩)
      obtain ⟨rfl, visible, deeper⟩ := ih.mp visits
      refine ⟨rfl, ⟨shown, visible⟩, .inr ?_⟩
      rcases deeper with rfl | deeper
      · exact directory
      · exact deeper
    · rintro ⟨rfl, ⟨shown, visible⟩, below⟩
      have deeper := below.resolve_left (by simp)
      exact .down shown (directory_of_append tree _ deeper) (ih.mpr ⟨rfl, visible, .inr deeper⟩)

/-- **A directory of the walk** is where its path leads, unless the path is too long. -/
theorem resolve_of_visits (located : locate tree cwd root = .ok home)
    (visits : Visits hidden tree home names place) :
    tree.resolve cwd .look (pathOf root names) =
      if 4096 ≤ (pathOf root names).length then .error .nameTooLong else .ok (.directory place) := by
  obtain ⟨rfl, -, below⟩ := visits_iff.mp visits
  obtain rfl | ⟨before, last, shape⟩ := List.eq_nil_or_concat names
  · have resolved := locate_eq_ok_iff.mp located
    obtain ⟨-, -, short, -⟩ := FileTree.resolve_eq_ok_iff.mp resolved
    rw [if_neg (by simpa [pathOf] using short)]
    exact resolved
  · rw [List.concat_eq_append] at shape
    subst shape
    have directory := below.resolve_left (by simp)
    rw [List.reverse_append, List.reverse_singleton, List.append_assoc, List.singleton_append]
      at directory ⊢
    obtain ⟨links, reaches⟩ := reaches_pathOf located (tree.get?_parent directory)
    rw [pathOf_append, reaches.resolve_name (.inr fun target => by simp [directory]),
      FileTree.placeAt, directory]

variable [Host]

/-- Whether the directory that names lead to can be opened by its path. -/
def Opens (tree : FileTree) (cwd : Location) (root : Path) (names : List Name) : Prop :=
  ∃ place, tree.openDirectory cwd (pathOf root names) = .ok place

/-- **A directory of the walk opens** by its path, unless there is a reason to refuse it. -/
theorem openDirectory_of_visits (located : locate tree cwd root = .ok home)
    (visits : Visits hidden tree home names place) :
    tree.openDirectory cwd (pathOf root names) = Host.grant (refusal? home root names) place := by
  rw [FileTree.openDirectory, resolve_of_visits located visits, refusal?]
  obtain ⟨rfl, -, -⟩ := visits_iff.mp visits
  by_cases long : 4096 ≤ (pathOf root names).length
  · simp only [if_pos long, Host.grant]
  · simp only [if_neg long]

theorem opens_iff (located : locate tree cwd root = .ok home)
    (visits : Visits hidden tree home names place) :
    Opens tree cwd root names ↔ refusal? home root names = none := by
  simp [Opens, openDirectory_of_visits located visits, Host.grant_eq_ok_iff]

/-- A directory is visited when it is the root or is reached below it. -/
theorem visits_iff_mem_reached : Visits Host.hides tree home names (names.reverse ++ home) ↔
    names = [] ∨ (⟨names, .directory⟩ : Found) ∈ reached tree home := by
  rw [visits_iff, mem_reached]
  by_cases start : names = []
  · simp [start]
  · simp [start, and_comm]

/-- When a search succeeds: the root is a directory, and all directories of the walk open. -/
theorem exists_candidates_iff_opens (located : locate tree cwd root = .ok home)
    (streamless : isStream root = false) :
    (∃ list, candidates tree cwd root wanted tokens = .ok list) ↔
      ∀ names place, Visits Host.hides tree home names place → Opens tree cwd root names := by
  rw [exists_candidates_iff]
  constructor
  · rintro ⟨home', located', granted⟩ names place visits
    obtain rfl : home = home' := Except.ok.inj (located.symm.trans located')
    obtain ⟨rfl, -, -⟩ := visits_iff.mp visits
    refine (opens_iff located visits).mpr ?_
    obtain rfl | inside := visits_iff_mem_reached.mp visits
    · exact (granted streamless).1
    · exact (granted streamless).2 _ inside rfl
  · intro opens
    refine ⟨home, located, fun _ => ⟨?_, ?_⟩⟩
    · exact (opens_iff located (visits_iff_mem_reached.mpr (.inl rfl))).mp (opens [] home .here)
    rintro ⟨names, entry⟩ inside (rfl : entry = .directory)
    have visits := visits_iff_mem_reached.mpr (.inr inside)
    exact (opens_iff located visits).mp (opens names _ visits)

/-- What a search reports that cannot list some directory: the path of one, and why. -/
theorem exists_refusal_of_unlisted? {directory : Path} {error : FileError}
    (reported : unlisted? home root (reached tree home) = some (directory, error)) :
    ∃ names, Visits Host.hides tree home names (names.reverse ++ home) ∧
      directory = pathOf root names ∧ refusal? home root names = some error := by
  obtain ⟨names, inside, found⟩ := List.exists_of_findSome?_eq_some reported
  obtain ⟨_, refused, same⟩ := Option.map_eq_some_iff.mp found
  obtain ⟨rfl, rfl⟩ := Prod.mk.inj same
  refine ⟨names, visits_iff_mem_reached.mpr ?_, rfl, refused⟩
  refine (List.mem_cons.mp inside).imp id fun below => ?_
  obtain ⟨⟨_, entry⟩, listed, rfl⟩ := List.mem_map.mp below
  obtain ⟨listed, isDirectory⟩ := List.mem_filter.mp listed
  obtain rfl : entry = .directory := of_decide_eq_true isDirectory
  exact listed

/-- **A walk with a directory that does not open** fails with such a directory. -/
theorem candidates_of_unopened (located : locate tree cwd root = .ok home)
    (streamless : isStream root = false) (visits : Visits Host.hides tree home names place)
    (closed : ¬ Opens tree cwd root names) :
    ∃ names place error, Visits Host.hides tree home names place ∧
      tree.openDirectory cwd (pathOf root names) = .error error ∧
      candidates tree cwd root wanted tokens = .error (.unlisted (pathOf root names) error) := by
  cases reported : unlisted? home root (reached tree home) with
  | none =>
    obtain ⟨list, found⟩ : ∃ list, candidates tree cwd root wanted tokens = .ok list := by
      simp [candidates, walk, located, streamless, reported, Except.map]
    exact absurd ((exists_candidates_iff_opens located streamless).mp ⟨list, found⟩ _ _ visits)
      closed
  | some refused =>
    obtain ⟨directory, error⟩ := refused
    obtain ⟨names, visits, rfl, refused⟩ := exists_refusal_of_unlisted? reported
    refine ⟨names, _, error, visits, ?_, ?_⟩
    · rw [openDirectory_of_visits located visits, refused]
      rfl
    · simp [candidates, walk, located, streamless, reported, Except.map]

/-! ### The list -/

/-- Whether a file in a directory of the walk is listed under a source: its name is not hidden, is a
text, and is a stem with the ending of the source; the source is wanted; and no token excludes the
path. -/
structure Listed (hidden : Name → Bool) (tree : FileTree) (home : Location) (root : Path)
    (wanted : List Script.Source) (tokens : List String) (outer : List Name) (last : Name)
    (source : Script.Source) : Prop where
  stands : ∃ parent content, Visits hidden tree home outer parent ∧
    tree.get? (last :: parent) = some (.file content)
  shown : hidden last = false
  text : ∃ text, Utf8.decode? last.bytes = some text
  ending : ∃ stem, stem ≠ [] ∧ last.bytes = stem ++ Bytes.ofString source.suffix
  asked : source ∈ wanted
  kept : Ignore.excludes tokens (Utf8.decodeLossy (pathOf root (outer ++ [last]))) = false

/-- **A listed file** is a selected one. -/
theorem listed_iff_exists_selected :
    Listed Host.hides tree home root wanted tokens outer last source ↔
      ∃ content, Selected tree home root wanted tokens ⟨pathOf root (outer ++ [last]), source⟩
        (outer ++ [last]) content := by
  have named : (pathOf root (outer ++ [last])).name? = some last.bytes := by
    rw [pathOf_append]
    exact Path.name?_append (Path.isFront_opened _) last.isWord
  have place : ∀ home : Location, (outer ++ [last]).reverse ++ home =
      last :: (outer.reverse ++ home) := by simp
  constructor
  · rintro ⟨⟨_, content, visits, stands⟩, shown, text, ending, asked, kept⟩
    obtain ⟨rfl, visible, -⟩ := visits_iff.mp visits
    refine ⟨content, by simp, ?_, by rwa [place], rfl, ?_, kept⟩
    · simpa [or_imp, forall_and, shown] using visible
    · exact Script.Source.ofPath?_eq_some_iff.mpr
        ⟨last.bytes, named, text, asked, Script.Source.ends_iff.mpr ending⟩
  · rintro ⟨content, nonempty, visible, stands, -, ending, kept⟩
    rw [place] at stands
    obtain ⟨_, found, text, asked, ends⟩ := Script.Source.ofPath?_eq_some_iff.mp ending
    obtain rfl := Option.some.inj (named.symm.trans found)
    have visits : Visits Host.hides tree home outer (outer.reverse ++ home) :=
      visits_iff.mpr ⟨rfl, fun name inside => visible name (List.mem_append_left _ inside),
        .inr (tree.get?_parent stands)⟩
    exact ⟨⟨_, content, visits, stands⟩, visible last (by simp), text,
      Script.Source.ends_iff.mp ends, asked, kept⟩

/-- **A candidate is a listed file**: its path is that of the file, and its source is the one that
the file is listed under. -/
theorem mem_candidates_iff_listed (found : candidates tree cwd root wanted tokens = .ok list)
    (located : locate tree cwd root = .ok home) (streamless : isStream root = false) :
    candidate ∈ list ↔ ∃ outer last, candidate.path = pathOf root (outer ++ [last]) ∧
      Listed Host.hides tree home root wanted tokens outer last candidate.source := by
  obtain ⟨path, source⟩ := candidate
  simp only [mem_candidates found located, streamless, true_and, listed_iff_exists_selected]
  constructor
  · rintro ⟨names, content, selected⟩
    obtain ⟨outer, last, rfl, -, -, -⟩ := selected.exists_last
    obtain rfl : path = _ := selected.path_eq
    exact ⟨outer, last, rfl, content, selected⟩
  · rintro ⟨outer, last, rfl, content, selected⟩
    exact ⟨_, content, selected⟩

omit [Host] in
/-- A file is listed under one source at most. -/
theorem Listed.source_eq {source' : Script.Source}
    (listed : Listed hidden tree home root wanted tokens outer last source)
    (listed' : Listed hidden tree home root wanted tokens outer last source') :
    source = source' :=
  Script.Source.eq_of_ends (Script.Source.ends_iff.mpr listed.ending)
    (Script.Source.ends_iff.mpr listed'.ending)

/-- **A listed file has one candidate** in the list. -/
theorem filter_eq_singleton (found : candidates tree cwd root wanted tokens = .ok list)
    (located : locate tree cwd root = .ok home) (streamless : isStream root = false)
    (listed : Listed Host.hides tree home root wanted tokens outer last source) :
    list.filter (fun candidate => candidate.path = pathOf root (outer ++ [last])) =
      [⟨pathOf root (outer ++ [last]), source⟩] := by
  refine List.perm_singleton.mp ((List.perm_ext_iff_of_nodup
    ((nodup_candidates found).filter _) (List.nodup_singleton _)).mpr fun candidate => ?_)
  rw [List.mem_filter, decide_eq_true_eq, List.mem_singleton,
    mem_candidates_iff_listed found located streamless]
  constructor
  · rintro ⟨⟨outer', last', path_eq, listed'⟩, same⟩
    obtain ⟨rfl, ends⟩ := List.append_inj' (pathOf_injective root (path_eq.symm.trans same)) rfl
    obtain rfl := (List.cons.inj ends).1
    obtain ⟨path, source'⟩ := candidate
    obtain rfl : path = _ := same
    obtain rfl : source' = source := listed'.source_eq listed
    rfl
  · rintro rfl
    exact ⟨⟨outer, last, rfl, listed⟩, rfl⟩

/-- **The list is strictly increasing** in the order of the paths. -/
theorem strict_candidates (found : candidates tree cwd root wanted tokens = .ok list) :
    list.Pairwise fun first second =>
      first.path.before second.path = true ∧ second.path.before first.path = false := by
  obtain ⟨home, located⟩ := locate_of_candidates found
  have nonempty := (reaches_root located).1
  have ordered := List.pairwise_and_iff.mpr ⟨pairwise_candidates found, nodup_candidates found⟩
  refine ordered.imp_of_mem ?_
  rintro first second listed listed' ⟨there, different⟩
  refine ⟨there, Bool.eq_false_iff.mpr fun back => different ?_⟩
  obtain ⟨-, names, content, selected⟩ := (mem_candidates found located).mp listed
  obtain ⟨-, names', content', selected'⟩ := (mem_candidates found located).mp listed'
  exact selected.eq_of_before nonempty selected' there back

/-- A search finds the same list in trees with one view. -/
theorem candidates_congr (same : Same tree other)
    (found : candidates tree cwd root wanted tokens = .ok list) :
    candidates other cwd root wanted tokens = .ok list := by
  have frame : SameFrame tree other := fun location entry _ => by rw [same location]
  obtain ⟨home, located⟩ := locate_of_candidates found
  have located' := locate_congr frame located
  obtain ⟨list', found'⟩ := exists_candidates_congr frame found
  rw [found', candidates_eq_of_mem_iff found found' fun candidate => ?_]
  rw [mem_candidates found located, mem_candidates found' located']
  refine and_congr_right fun _ => exists_congr fun names => exists_congr fun content => ?_
  constructor
  · exact fun selected => { selected with stands := same _ ▸ selected.stands }
  · exact fun selected => { selected with stands := (same _).symm ▸ selected.stands }

/-- **The list of a search, exactly.** When every directory of the walk opens, the search ends with
a list: its members are the listed files, each is there once, it is strictly increasing, and every
tree with the same view has the same list. When a directory of the walk does not open, the search
fails with a directory of the walk that does not open. All this is under the rule for hidden names
that the walker has. -/
theorem candidates_exact (rule : Host.hides = hidden) (located : locate tree cwd root = .ok home)
    (streamless : isStream root = false) (wanted : List Script.Source) (tokens : List String) :
    ((∀ names place, Visits hidden tree home names place → Opens tree cwd root names) →
      ∃ list, candidates tree cwd root wanted tokens = .ok list ∧
        (∀ candidate, candidate ∈ list ↔ ∃ outer last,
          candidate.path = pathOf root (outer ++ [last]) ∧
            Listed hidden tree home root wanted tokens outer last candidate.source) ∧
        (∀ outer last source, Listed hidden tree home root wanted tokens outer last source →
          list.filter (fun candidate => candidate.path = pathOf root (outer ++ [last])) =
            [⟨pathOf root (outer ++ [last]), source⟩]) ∧
        (list.Pairwise fun first second =>
          first.path.before second.path = true ∧ second.path.before first.path = false) ∧
        ∀ other, Same tree other → candidates other cwd root wanted tokens = .ok list) ∧
    ∀ names place, Visits hidden tree home names place → ¬ Opens tree cwd root names →
      ∃ names place error, Visits hidden tree home names place ∧
        tree.openDirectory cwd (pathOf root names) = .error error ∧
        candidates tree cwd root wanted tokens = .error (.unlisted (pathOf root names) error) := by
  subst rule
  refine ⟨fun opens => ?_, fun _ _ => candidates_of_unopened located streamless⟩
  obtain ⟨list, found⟩ := (exists_candidates_iff_opens located streamless).mpr opens
  exact ⟨list, found, fun _ => mem_candidates_iff_listed found located streamless,
    fun _ _ _ => filter_eq_singleton found located streamless, strict_candidates found,
    fun _ same => candidates_congr same found⟩

end Search

/-! ### A list, and a walk without one -/

namespace Nested

/-- Two files in directories of which one has the name of the other and more, a file in a hidden
directory, a directory with the name of a source, and a link with such a name. -/
def tree : FileTree :=
  [("r/a-b/x.js", Entry.file []), ("r/a/x.jsx", .file []), ("r/.h/x.js", .file []),
    ("r/d.js", .directory), ("r/l.js", .link (Bytes.ofString "a/x.jsx"))].foldl
    (fun tree place => tree.plant [] (Bytes.ofString place.1) place.2) .empty

def root : Path := Bytes.ofString "r"

def listed : List Candidate :=
  [⟨Bytes.ofString "r/a/x.jsx", .jsx⟩, ⟨Bytes.ofString "r/a-b/x.js", .js⟩]

theorem candidates_eq : candidates tree [] root Script.Source.all Ignore.defaultTokens =
    .ok listed := by cbv

end Nested

namespace Deep

/-- A directory in a directory. -/
def tree : FileTree := FileTree.empty.plant [] (Bytes.ofString "d/e") .directory

/-- The root of all, written with many slashes. -/
def root (count : Nat) : Path := List.replicate (count + 1) Path.slash

def outer : Name := ⟨Bytes.ofString "d", by decide⟩

def inner : Name := ⟨Bytes.ofString "e", by decide⟩

variable {count : Nat}

theorem way_root : (root count).way = [] := by
  induction count with
  | zero => rfl
  | succ count ih => exact ih

theorem getLast?_root : (root count).getLast? = some Path.slash := by
  simp [root, List.getLast?_replicate]

theorem locate_root (short : count + 1 < 4096) : locate tree [] (root count) = .ok [] := by
  rw [locate_eq_ok_iff, FileTree.resolve_directory_iff, way_root]
  exact ⟨by simp [root, Path.slash], by simp [root], by simpa [root] using short, 40,
    by simp [FileTree.approach, FileTree.start]⟩

theorem visits : Visits Name.isDotted tree [] [outer, inner] [inner, outer] :=
  .down (by decide) (by cbv) (.down (by decide) (by cbv) .here)

theorem length_path : (pathOf (root count) [outer, inner]).length = count + 4 := by
  have opened : (root count).opened = root count := if_pos (.inr getLast?_root)
  have deeper : (root count ++ outer.bytes).opened = root count ++ outer.bytes ++ [Path.slash] := by
    refine if_neg ?_
    rw [not_or]
    exact ⟨by simp [root], outer.isWord.getLast?_append_ne _⟩
  have path : pathOf (root count) [outer, inner] =
      root count ++ outer.bytes ++ [Path.slash] ++ inner.bytes := by
    rw [pathOf, List.foldl_cons, List.foldl_cons, List.foldl_nil, Path.under_eq, Path.under_eq,
      opened, deeper]
  have short : outer.bytes.length = 1 ∧ inner.bytes.length = 1 := by decide
  rw [path]
  simp [root, short]

theorem isStream_root : isStream (root count) = false := by
  have front : (root count).components.head? = some .root := by
    rw [root, List.replicate_succ, Path.components, segments, if_pos (by simp)]
    simp [Path.Component.ofFront?]
  refine decide_eq_false fun stream => ?_
  rw [stream] at front
  cases front

end Deep

namespace Barred

/-- A host that refuses to list one directory. -/
@[reducible] def host : Host :=
  .refusing
    (fun location => if location = Location.ofTexts ["r", "a"] then some (.system 13) else none)
    (fun _ => none) (fun _ => none)

def inner : Name := ⟨Bytes.ofString "a", by decide⟩

theorem visits : Visits Name.isDotted Nested.tree (Location.ofTexts ["r"]) [inner]
    (Location.ofTexts ["r", "a"]) :=
  .down (by decide) (by cbv) .here

theorem closed : ¬ @Opens host Nested.tree [] Nested.root [inner] := by
  have refused : @FileTree.openDirectory host Nested.tree [] (pathOf Nested.root [inner]) =
      .error (.system 13) := by cbv
  rintro ⟨place, opened⟩
  cases refused.symm.trans opened

end Barred

namespace Pointed

/-- A host with a walker that enters directories with a dot at both ends of their names. -/
@[reducible] def host : Host where
  hides name := name.isDotted && name.bytes.getLast? != some Path.dot
  isDotted_of_hides hidden := (Bool.and_eq_true_iff.mp hidden).1
  hides_of_isDotted dotted last := Bool.and_eq_true_iff.mpr ⟨dotted, bne_iff_ne.mpr last⟩
  unlisted? _ := none
  unwritten? _ := none
  unremoved? _ := none

/-- A file in such a directory. -/
def tree : FileTree := FileTree.empty.plant [] (Bytes.ofString "r/.a./x.js") (.file [])

example : candidates tree [] Nested.root Script.Source.all [] = .ok [] := by cbv

example : @candidates host tree [] Nested.root Script.Source.all [] =
    .ok [⟨Bytes.ofString "r/.a./x.js", .js⟩] := by cbv

end Pointed

/-- The files of the nested directories are listed by components; the deep directory does not open,
and neither does one that the host refuses to list. -/
theorem candidates_exact_nested :
    (candidates Nested.tree [] Nested.root Script.Source.all Ignore.defaultTokens =
        .ok Nested.listed ∧
      Nested.listed.Pairwise fun first second =>
        first.path.before second.path = true ∧ second.path.before first.path = false) ∧
    (∃ names place error, Visits Name.isDotted Deep.tree [] names place ∧
      Deep.tree.openDirectory [] (pathOf (Deep.root 4093) names) = .error error ∧
      candidates Deep.tree [] (Deep.root 4093) Script.Source.all Ignore.defaultTokens =
        .error (.unlisted (pathOf (Deep.root 4093) names) error)) ∧
    ∃ names place error, Visits Name.isDotted Nested.tree (Location.ofTexts ["r"]) names place ∧
      @FileTree.openDirectory Barred.host Nested.tree [] (pathOf Nested.root names) =
        .error error ∧
      @candidates Barred.host Nested.tree [] Nested.root Script.Source.all Ignore.defaultTokens =
        .error (.unlisted (pathOf Nested.root names) error) := by
  have located : locate Nested.tree [] Nested.root = .ok (Location.ofTexts ["r"]) := by cbv
  have streamless : isStream Nested.root = false := by decide
  obtain ⟨list, found, -, -, strict, -⟩ :=
    (candidates_exact rfl located streamless Script.Source.all Ignore.defaultTokens).1
      ((exists_candidates_iff_opens located streamless).mp ⟨_, Nested.candidates_eq⟩)
  obtain rfl : Nested.listed = list := Except.ok.inj (Nested.candidates_eq.symm.trans found)
  have located' : locate Deep.tree [] (Deep.root 4093) = .ok [] := Deep.locate_root (by omega)
  have closed : ¬ Opens Deep.tree [] (Deep.root 4093) [Deep.outer, Deep.inner] := by
    rw [opens_iff located' Deep.visits, refusal?, Deep.length_path, if_pos (by omega)]
    simp
  exact ⟨⟨found, strict⟩,
    (candidates_exact rfl located' Deep.isStream_root Script.Source.all Ignore.defaultTokens).2
      _ _ Deep.visits closed,
    (@candidates_exact _ _ _ _ _ Barred.host rfl located streamless Script.Source.all
      Ignore.defaultTokens).2 _ _ Barred.visits Barred.closed⟩

end Retarget.Discovery
