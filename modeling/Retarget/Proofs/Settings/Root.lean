/-
**The root of the settings.**

The root is the given path, cleaned. It leads to the directory that was given when the path returns
from the links that it takes back, as every path does that takes back none. Behind a link that leads
elsewhere it does not: `l/../b` becomes `b`, wherever `l` leads.

* `Settings.exists_merge`: the settings of a command line and a file, and their root;
* `Settings.resolve_root_of_merge`: where the root leads;
* `Settings.root_leads_elsewhere`: a path that does not return from its link.
-/

import Mathlib
import Retarget.Proofs.FileTree.Cleaned
import Retarget.Proofs.Settings.Loading

namespace Retarget.Settings

section Merge

variable {tree : FileTree} {cwd home : Location} {arguments : Arguments} {file : FileSettings}
  {text : String}

/-- **Settings are merged** when a directory is given and some file is allowed at a time. -/
theorem exists_merge (given : arguments.directory = some text) (nonempty : text ≠ "")
    (allowed : arguments.maxConcurrency.or file.maxConcurrency ≠ some 0) :
    ∃ settings, merge arguments file = .ok settings ∧
      settings.root = Path.clean (Bytes.ofString text) := by
  rw [merge_directed given nonempty, ← or_eq_limitOf, if_neg allowed]
  exact ⟨_, rfl, rfl⟩

/-- **The root** of merged settings leads to the directory that was given, when each `..` of the
given path that takes back the name of a symbolic link leads to the directory in which the link
stands. -/
theorem resolve_root_of_merge (given : arguments.directory = some text) (nonempty : text ≠ "")
    (allowed : arguments.maxConcurrency.or file.maxConcurrency ≠ some 0)
    (resolved : tree.resolve cwd .look (Bytes.ofString text) = .ok (.directory home))
    (returns : tree.ReturnsFromLinks cwd (Bytes.ofString text)) :
    ∃ settings, merge arguments file = .ok settings ∧
      tree.resolve cwd .look settings.root = .ok (.directory home) := by
  obtain ⟨settings, merged, root⟩ := exists_merge given nonempty allowed
  refine ⟨settings, merged, ?_⟩
  rw [root]
  exact FileTree.resolve_clean resolved returns

end Merge

namespace Returning

/-- A link beside the directory that it leads to. -/
def tree : FileTree :=
  (FileTree.empty.plant [] (Bytes.ofString "a/b") .directory).plant [] (Bytes.ofString "a/l")
    (.link (Bytes.ofString "b"))

def arguments : Arguments := { directory := some "a/l/../b" }

def home : Location := Location.ofTexts ["a", "b"]

theorem returns : tree.ReturnsFromLinks [] (Bytes.ofString "a/l/../b") := by
  intro before behind name parent place target split removed looked
  have parts : Path.components (Bytes.ofString "a/l/../b") =
      [.name (Bytes.ofString "a"), .name (Bytes.ofString "l")] ++
        .up :: [.name (Bytes.ofString "b")] := by decide
  obtain ⟨rfl, -, -⟩ := (List.append_cons_inj_of_notMem (by decide) (by decide)).mp
    (parts.symm.trans split)
  have link : tree.resolve [] .remove (Path.clean (Bytes.ofString "a/l")) =
      .ok (.link (Location.ofTexts ["a", "l"]) (Bytes.ofString "b")) := by cbv
  have leads : tree.resolve [] .look (Bytes.ofString "a/l") = .ok (.directory home) := by cbv
  have place_eq : home = place := by
    cases leads.symm.trans looked
    rfl
  have parent_eq : Location.ofTexts ["a"] = parent := by
    cases link.symm.trans removed
    rfl
  rw [← place_eq, ← parent_eq]
  rfl

end Returning

/-- A link that is taken back where it leads to its neighbour. -/
theorem resolve_root_of_merge_returning :
    ∃ settings, merge Returning.arguments {} = .ok settings ∧
      Returning.tree.resolve [] .look settings.root = .ok (.directory Returning.home) :=
  resolve_root_of_merge rfl (by decide) (by decide) (by cbv) Returning.returns

namespace Astray

/-- A link to a directory deeper down, and a directory named as one beside that. -/
def tree : FileTree :=
  (((FileTree.empty.plant [] (Bytes.ofString "a/b") .directory).plant [] (Bytes.ofString "a/c")
    .directory).plant [] (Bytes.ofString "l") (.link (Bytes.ofString "a/c"))).plant []
      (Bytes.ofString "b/x.jsx") (.file [])

def arguments : Arguments := { directory := some "l/../b" }

def home : Location := Location.ofTexts ["a", "b"]

def elsewhere : Location := Location.ofTexts ["b"]

end Astray

/-- **Behind a link that leads elsewhere** the root is another directory. -/
theorem root_leads_elsewhere :
    Astray.tree.resolve [] .look (Bytes.ofString "l/../b") = .ok (.directory Astray.home) ∧
      Astray.tree.get? Astray.home = some .directory ∧
      ∃ settings, merge Astray.arguments {} = .ok settings ∧
        Astray.tree.resolve [] .look settings.root = .ok (.directory Astray.elsewhere) ∧
        Astray.elsewhere ≠ Astray.home := by
  refine ⟨by cbv, by cbv, ?_⟩
  have built : ∃ settings, merge Astray.arguments {} = .ok settings ∧
      settings.root = Path.clean (Bytes.ofString "l/../b") :=
    exists_merge rfl (by decide) (by decide)
  obtain ⟨settings, merged, root⟩ := built
  refine ⟨settings, merged, ?_, by decide⟩
  rw [root]
  cbv

end Retarget.Settings
