/-
**Where the file of a candidate stands.**

The site of a candidate is the directory and the name that its path leads to. As long as the frame
of the tree stays as it is, the three steps of a conversion act on the site and beside it: they read
the file under the name, write under the name with the ending of the target, and remove the name.

* `Site`: how the path of a candidate leads to its file;
* `Site.load_eq`: what is read depends on the file alone;
* `Site.writeTarget_congr`: where the target goes is the same in all trees of one frame;
* `Site.remove_eq`: removing takes the file away;
* `exists_site_of_selected` and `exists_site_of_resolve`: the files that have a site.
-/

import Retarget.Conversion.Basic
import Retarget.Proofs.Discovery.Selected
import Retarget.Proofs.Path.Ending

namespace Retarget

open FileTree (SameFrame TakesFile)

/-- How the path of a candidate leads to its file: a front to a directory, and a name that is a stem
with the ending of the source. -/
structure Site (tree : FileTree) (cwd : Location) (candidate : Candidate) where
  front : Path
  stem : Bytes
  links : Nat
  parent : Location
  name : Name
  content : Bytes
  divided : Script.Divided candidate.path candidate.source front stem
  reaches : tree.Reaches cwd front links parent
  name_bytes : name.bytes = stem ++ Bytes.ofString candidate.source.suffix
  stands : tree.get? (name :: parent) = some (.file content)

namespace Site

variable {tree other : FileTree} {cwd : Location} {candidate : Candidate}

/-- The location of the file. -/
def location (site : Site tree cwd candidate) : Location := site.name :: site.parent

theorem path_eq (site : Site tree cwd candidate) :
    candidate.path = site.front ++ site.name.bytes := by
  rw [site.name_bytes]
  exact site.divided.path_eq

theorem unlinked (site : Site tree cwd candidate) (same : SameFrame tree other) (target : Path) :
    other.get? (site.name :: site.parent) ≠ some (.link target) := by
  intro link
  have present := (same.link_iff _ _).mpr link
  rw [site.stands] at present
  cases present

/-- The site in another tree of the frame where the file still stands. -/
def renew (site : Site tree cwd candidate) (same : SameFrame tree other) {content : Bytes}
    (stands : other.get? site.location = some (.file content)) : Site other cwd candidate :=
  { site with
    content := content
    reaches := site.reaches.congr same
    stands := stands }

/-! ### Reading -/

theorem read_eq (site : Site tree cwd candidate) (same : SameFrame tree other) :
    other.read cwd candidate.path =
      if 4096 ≤ candidate.path.length then .error .nameTooLong
      else other.contentAt site.location := by
  have reaches := site.reaches.congr same
  rw [site.path_eq]
  split
  · next long =>
    rw [FileTree.read, reaches.resolve_name (.inr (site.unlinked same)), if_pos long]
  · next short => exact reaches.read_eq (site.unlinked same) (by omega)

/-- **What is read** depends on the file alone. -/
theorem load_eq (site : Site tree cwd candidate) (same : SameFrame tree other)
    (kept : other.get? site.location = tree.get? site.location) :
    Conversion.load other cwd candidate = Conversion.load tree cwd candidate := by
  have reads : other.read cwd candidate.path = tree.read cwd candidate.path := by
    rw [site.read_eq same, site.read_eq (.refl tree), FileTree.contentAt, kept]
    rfl
  rw [Conversion.load, FileTree.readText, reads]
  rfl

/-- A file that can be read has a short path and spells a text. -/
theorem loaded (site : Site tree cwd candidate) {file : Conversion.Loaded}
    (load : Conversion.load tree cwd candidate = .ok file) :
    candidate.path.length < 4096 ∧ file.content = site.content ∧
      ∃ text, tree.readText cwd candidate.path = .ok (site.content, text) ∧
        file.target = candidate.source.target text := by
  have read := site.read_eq (.refl tree)
  by_cases long : 4096 ≤ candidate.path.length
  · rw [if_pos long] at read
    rw [Conversion.load, FileTree.readText, read] at load
    cases load
  · rw [if_neg long, FileTree.contentAt, location, site.stands] at read
    rw [Conversion.load, FileTree.readText, read] at load
    cases decoded : Utf8.decode? site.content with
    | none =>
      simp only [decoded] at load
      cases load
    | some text =>
      simp only [decoded, Except.map, Except.ok.injEq] at load
      subst load
      refine ⟨by omega, rfl, text, ?_, rfl⟩
      rw [FileTree.readText, read]
      simp only [decoded]

/-! ### Writing the target -/

/-- The word that names a target. -/
def targetWord (site : Site tree cwd candidate) (target : Script.Target) : Bytes :=
  site.stem ++ Bytes.ofString target.suffix

theorem destinationOf_eq (site : Site tree cwd candidate) (file : Conversion.Loaded) :
    Conversion.destinationOf candidate file = site.front ++ site.targetWord file.target :=
  site.divided.destination_eq file.target

theorem isWord_targetWord (site : Site tree cwd candidate) (target : Script.Target) :
    Path.IsWord (site.targetWord target) :=
  site.divided.isWord_target target

theorem zero_notMem_targetWord (site : Site tree cwd candidate) (target : Script.Target) :
    0 ∉ site.targetWord target := by
  have clean := site.name.zero_notMem
  rw [site.name_bytes, List.mem_append, not_or] at clean
  rw [targetWord, List.mem_append, not_or]
  exact ⟨clean.1, target.zero_notMem⟩

end Site

/-- **The name of a target is hidden** when that of its source is. -/
theorem Site.hides_of_targetWord [Host] (site : Site tree cwd candidate) {target : Script.Target}
    {name : Name} (bytes : name.bytes = site.targetWord target) :
    Host.hides name = Host.hides site.name := by
  have dotted : name.isDotted = site.name.isDotted := by
    rw [Name.isDotted, Name.isDotted, bytes, site.name_bytes, Site.targetWord,
      List.head?_append_of_ne_nil _ site.divided.nonempty,
      List.head?_append_of_ne_nil _ site.divided.nonempty]
  have last : name.bytes.getLast? ≠ some Path.dot := by
    rw [bytes, targetWord, List.getLast?_append_of_ne_nil _ (by cases target <;> decide)]
    cases target <;> decide
  have last' : site.name.bytes.getLast? ≠ some Path.dot := by
    rw [site.name_bytes, List.getLast?_append_of_ne_nil _ (by cases candidate.source <;> decide)]
    cases candidate.source <;> decide
  rw [Host.hides_eq_isDotted last, Host.hides_eq_isDotted last', dotted]

/-- Whether the target of a candidate is written to no link. -/
def Conversion.Unlinked (tree : FileTree) (cwd : Location) (candidate : Candidate) : Prop :=
  ∀ file, Conversion.load tree cwd candidate = .ok file → ∀ location target,
    tree.resolve cwd .remove (Conversion.destinationOf candidate file) ≠ .ok (.link location target)

namespace Site

variable {tree other : FileTree} {cwd : Location} {candidate : Candidate}

/-- A word that names a target names no link, when the path of the target does not. -/
theorem target_unlinked (site : Site tree cwd candidate) (same : SameFrame tree other)
    {target : Script.Target} (unlinked : ∀ location there,
      tree.resolve cwd .remove (Script.destination candidate.path target) ≠
        .ok (.link location there)) :
    ∀ name there, Name.ofBytes? (site.targetWord target) = some name →
      (site.front ++ site.targetWord target).length < 4096 →
        other.get? (name :: site.parent) ≠ some (.link there) := by
  intro name there named short link
  have present := (same.link_iff _ _).mpr link
  refine unlinked (name :: site.parent) there ?_
  rw [site.divided.destination_eq, ← targetWord, ← Name.bytes_of_ofBytes? named] at *
  rw [site.reaches.resolve_name (.inl rfl), if_neg (by omega), FileTree.placeAt, present]

/-- **Where the target goes** is the same in all trees of one frame. -/
theorem writeTarget_congr [Host] (site : Site tree cwd candidate) (same : SameFrame tree other)
    (unlinked : Conversion.Unlinked tree cwd candidate) {file : Conversion.Loaded}
    (load : Conversion.load tree cwd candidate = .ok file) :
    other.writeTarget cwd (Conversion.destinationOf candidate file) =
      tree.writeTarget cwd (Conversion.destinationOf candidate file) := by
  have isWord := site.isWord_targetWord file.target
  have clean := site.zero_notMem_targetWord file.target
  rw [site.destinationOf_eq,
    (site.reaches.congr same).writeTarget_eq isWord clean
      (site.target_unlinked same (unlinked file load)),
    site.reaches.writeTarget_eq isWord clean
      (site.target_unlinked (.refl tree) (unlinked file load))]
  cases Name.ofBytes? (site.targetWord file.target) with
  | none => rfl
  | some name => simp only [← same.directory_iff]

/-- **A target that is no link** goes beside its source, where no directory stands. -/
theorem beside_of_writeTarget [Host] (site : Site tree cwd candidate) {target : Script.Target}
    (unlinked : ∀ location there,
      tree.resolve cwd .remove (Script.destination candidate.path target) ≠
        .ok (.link location there)) {location : Location}
    (written : tree.writeTarget cwd (Script.destination candidate.path target) = .ok location) :
    (Script.destination candidate.path target).length < 4096 ∧
      TakesFile tree location ∧ ∃ name : Name, location = name :: site.parent ∧
        name.bytes = site.targetWord target := by
  have free := site.target_unlinked (.refl tree) unlinked
  rw [site.divided.destination_eq, ← targetWord] at written ⊢
  rw [site.reaches.writeTarget_eq (site.isWord_targetWord _) (site.zero_notMem_targetWord _) free]
    at written
  split at written
  · cases written
  · next short =>
    cases named : Name.ofBytes? (site.targetWord target) with
    | none =>
      rw [named] at written
      cases written
    | some name =>
      simp only [named] at written
      split at written
      · cases written
      · next open_ =>
        obtain ⟨-, rfl⟩ := Host.grant_eq_ok_iff.mp written
        refine ⟨by omega, ⟨⟨tree.get?_parent site.stands, open_⟩, ?_⟩, name, rfl,
          Name.bytes_of_ofBytes? named⟩
        exact fun there => free name there named (by omega)

/-! ### Removing the source -/

/-- A short path names the file. -/
theorem resolve_eq (site : Site tree cwd candidate) (short : candidate.path.length < 4096) :
    tree.resolve cwd .remove candidate.path = .ok (.file site.location site.content) := by
  rw [site.path_eq] at short ⊢
  rw [site.reaches.resolve_name (.inl rfl), if_neg (by omega), FileTree.placeAt, site.stands]
  rfl

/-- **Removing** takes the file away, when the host grants that. -/
theorem remove_eq [Host] (site : Site tree cwd candidate) (same : SameFrame tree other)
    {content : Bytes}
    (present : other.get? site.location = some (.file content))
    (short : candidate.path.length < 4096) :
    other.remove cwd candidate.path =
      Host.grant (Host.unremoved? site.parent) (other.erase site.location) := by
  rw [site.path_eq] at short ⊢
  exact (site.reaches.congr same).remove_eq present short

end Site

/-! ### The files that have a site -/

/-- **A source file is hidden** when its name starts with a dot: it does not end in one. -/
theorem Script.Source.hides_eq_isDotted [Host] {source : Script.Source} {name : Name}
    (ends : source.ends name.bytes = true) : Host.hides name = name.isDotted := by
  obtain ⟨stem, -, shape⟩ := Script.Source.ends_iff.mp ends
  refine Host.hides_eq_isDotted ?_
  rw [shape, List.getLast?_append_of_ne_nil _ (by cases source <;> decide)]
  cases source <;> decide

/-- The last name of a candidate is a stem with the ending of its source. -/
theorem Discovery.Selected.exists_stem [Host] {tree : FileTree} {home : Location} {root : Path}
    {wanted : List Script.Source} {tokens : List String} {candidate : Candidate}
    {before : List Name} {last : Name} {content : Bytes}
    (selected : Selected tree home root wanted tokens candidate (before ++ [last]) content) :
    ∃ stem, last.bytes = stem ++ Bytes.ofString candidate.source.suffix ∧
      Script.Divided candidate.path candidate.source (pathOf root before).opened stem := by
  have ending := selected.ending
  rw [selected.path_eq, pathOf_append] at ending ⊢
  have visible : last.bytes.head? ≠ some Path.dot := by
    obtain ⟨_, found, -, -, ends⟩ := Script.Source.ofPath?_eq_some_iff.mp ending
    obtain rfl := Option.some.inj
      ((Path.name?_append (Path.isFront_opened _) last.isWord).symm.trans found)
    have shown := (Script.Source.hides_eq_isDotted ends).symm.trans (selected.visible last (by simp))
    rw [Name.isDotted] at shown
    simpa using shown
  exact Script.divided_of_ofPath? (Path.isFront_opened _) last.isWord visible ending

/-- **Every candidate has a site**, at the place that its names lead to. -/
theorem exists_site_of_selected [Host] {tree : FileTree} {cwd home : Location} {root : Path}
    {wanted : List Script.Source} {tokens : List String} {candidate : Candidate}
    {names : List Name} {content : Bytes}
    (located : Discovery.locate tree cwd root = .ok home)
    (selected : Discovery.Selected tree home root wanted tokens candidate names content) :
    ∃ site : Site tree cwd candidate, site.location = names.reverse ++ home ∧
      site.content = content ∧ ∃ before last, names = before ++ [last] ∧
        site.front = (Discovery.pathOf root before).opened ∧
        site.parent = before.reverse ++ home := by
  obtain ⟨before, last, rfl, stands, directory, -⟩ := selected.exists_last
  obtain ⟨links, reaches⟩ := Discovery.reaches_pathOf located directory
  obtain ⟨stem, name_bytes, divided⟩ := selected.exists_stem
  refine ⟨⟨_, stem, links, _, last, content, divided, reaches, name_bytes, stands⟩, ?_, rfl,
    before, last, rfl, rfl, rfl⟩
  simp [Site.location]

/-- **A source file that a path names** has a site. -/
theorem exists_site_of_resolve {tree : FileTree} {cwd location : Location} {candidate : Candidate}
    {wanted : List Script.Source} {content : Bytes}
    (ending : Script.Source.ofPath? wanted candidate.path = some candidate.source)
    (visible : ∀ name, candidate.path.name? = some name → name.head? ≠ some Path.dot)
    (resolved : tree.resolve cwd .remove candidate.path = .ok (.file location content)) :
    ∃ site : Site tree cwd candidate, site.location = location ∧ site.content = content := by
  cases found : candidate.path.leaf? with
  | none => simp [Script.Source.ofPath?_eq_some_iff, Path.name?, found] at ending
  | some leaf =>
    obtain ⟨split, isFront, isWord, -⟩ := Path.eq_of_leaf? found
    rw [FileTree.trail_eq_nil_of_resolve resolved found, List.append_nil] at split
    have shown := visible leaf.name (by rw [Path.name?, found]; rfl)
    obtain ⟨clean, -, -, walked⟩ := FileTree.resolve_eq_ok_iff.mp resolved
    rw [split] at ending clean walked
    obtain ⟨stem, word_eq, divided⟩ := Script.divided_of_ofPath? isFront isWord shown ending
    rw [Path.steps_append isFront isWord, FileTree.walk_append _ (by simp) (by simp),
      FileTree.start, Path.isAbsolute_append isWord] at walked
    cases approached : tree.approach 40 (FileTree.start cwd leaf.front) leaf.front.way with
    | error error =>
      rw [FileTree.start] at approached
      rw [approached] at walked
      cases walked
    | ok way =>
      rw [FileTree.start] at approached
      rw [approached] at walked
      rw [← split] at divided
      rw [List.mem_append, not_or] at clean
      have reaches : tree.Reaches cwd leaf.front way.1 way.2 := ⟨isFront, clean.1, approached⟩
      cases named : Name.ofBytes? leaf.name with
      | none => simp [Except.bind, Step.ofWord, named, FileTree.walk] at walked
      | some name =>
        have bytes := Name.bytes_of_ofBytes? named
        simp only [Except.bind, Step.ofWord, named] at walked
        rw [FileTree.walk_name (.inl rfl), Except.ok.injEq] at walked
        obtain ⟨rfl, stands⟩ := FileTree.placeAt_eq_file walked
        exact ⟨⟨_, stem, _, _, name, content, divided, reaches, bytes.trans word_eq, stands⟩,
          rfl, rfl⟩

end Retarget
