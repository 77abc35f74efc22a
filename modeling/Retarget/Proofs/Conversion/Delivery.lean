/-
**What one conversion delivers.**

A conversion that ends well has put the content of its file where the path of the target leads,
through whatever links, and has taken the file away unless originals are kept. The two meet in one
case: the path of the target leads back to the file itself. Then the file that was just written is
the one that is taken away, and the content is gone.

* `Conversion.get?_of_moved`: what a conversion changes that writes its target;
* `Conversion.content_of_converted`: what is read at both paths afterwards.
-/

import Mathlib
import Retarget.FileTree.Build
import Retarget.Proofs.Conversion.Verdict

namespace Retarget.Conversion

open FileTree (SameFrame)

section Steps

variable [Host] {tree after : FileTree} {cwd location target : Location} {keep : Bool}
  {candidate : Candidate} {loaded : Loaded} {file : Converted} {content : Bytes}

/-- **What a conversion changes** that moves its file: the location of the target holds the content,
and the file is gone when it is discarded. -/
theorem get?_of_moved (keep : Bool) (site : Site tree cwd candidate)
    (moved : fate tree cwd candidate = .moved loaded target) :
    SameFrame tree (convert cwd keep tree candidate).1 ∧ ∀ place,
      (convert cwd keep tree candidate).1.get? place =
        if Discards tree cwd keep candidate ∧ place = site.location then none
        else if place = target then some (.file site.content) else tree.get? place := by
  obtain ⟨loads, written⟩ := fate_eq_moved_iff.mp moved
  obtain ⟨short, content_eq, -⟩ := site.loaded loads
  have takes : tree.TakesFile target := by
    rw [site.destinationOf_eq] at written
    exact (site.reaches.read_writeTarget (site.isWord_targetWord _) (site.zero_notMem_targetWord _)
      (tree.get?_parent site.stands) written).1
  have stored := FileTree.sameFrame_put takes site.content
  obtain ⟨location, -, removes, converts⟩ := convert_of_moved keep moved
  rw [converts, content_eq]
  by_cases discards : Discards tree cwd keep candidate
  · have here : site.location = location := by
      have removed := removes discards.2
      rw [FileTree.removeTarget, site.resolve_eq short] at removed
      exact (Host.grant_eq_ok_iff.mp removed).2
    have present : (tree.put target (.file site.content)).get? site.location =
        some (.file site.content) := by
      rw [tree.get?_put _ takes.admits]
      split
      · rfl
      · exact site.stands
    simp only [if_pos discards, ← here]
    refine ⟨stored.trans (FileTree.sameFrame_erase present), fun place => ?_⟩
    rw [FileTree.get?_erase _ (by rw [present]; simp), tree.get?_put _ takes.admits]
    simp [discards]
  · simp only [if_neg discards]
    refine ⟨stored, fun place => ?_⟩
    rw [tree.get?_put _ takes.admits]
    simp [discards]

/-- **What a conversion changes** that ends well: it has moved its file, which is gone unless
originals are kept. -/
theorem get?_of_converted (site : Site tree cwd candidate)
    (converted : convert cwd keep tree candidate = (after, .converted file)) :
    ∃ loaded target, load tree cwd candidate = .ok loaded ∧
      tree.writeTarget cwd (destinationOf candidate loaded) = .ok target ∧
      file = ⟨candidate.path, destinationOf candidate loaded⟩ ∧ SameFrame tree after ∧
      ∀ place, after.get? place =
        if keep = false ∧ place = site.location then none
        else if place = target then some (.file site.content) else tree.get? place := by
  have ended : verdict tree cwd keep candidate = .converted file := by
    rw [← convert_verdict, converted]
  obtain ⟨loaded, target, moved, named, free⟩ := moved_of_verdict ended
  have discards : Discards tree cwd keep candidate ↔ keep = false :=
    ⟨And.left, fun removed => ⟨removed, free.resolve_left (by simp [removed])⟩⟩
  have changes := get?_of_moved keep site moved
  simp only [converted, discards] at changes
  obtain ⟨loads, written⟩ := fate_eq_moved_iff.mp moved
  exact ⟨loaded, target, loads, written, named, changes⟩

/-- **What is read at both paths** after a conversion that ends well. The source is there with its
content exactly when originals are kept. The destination has the content of the source, unless
originals are removed and the destination led to the source. -/
theorem content_of_converted
    (ending : Script.Source.ofPath? Script.Source.all candidate.path = some candidate.source)
    (visible : ∀ name, candidate.path.name? = some name → name.head? ≠ some Path.dot)
    (stands : tree.resolve cwd .remove candidate.path = .ok (.file location content))
    (converted : convert cwd keep tree candidate = (after, .converted file)) :
    tree.read cwd candidate.path = .ok content ∧ file.source = candidate.path ∧
      after.get? location = (if keep then some (.file content) else none) ∧
      after.read cwd candidate.path = (if keep then .ok content else .error .missing) ∧
      (after.read cwd file.destination = .ok content ↔
        keep = true ∨ tree.resolve cwd .look file.destination ≠ .ok (.file location content)) ∧
      (keep = false → tree.resolve cwd .look file.destination = .ok (.file location content) →
        after.read cwd file.destination = .error .missing) := by
  obtain ⟨site, rfl, rfl⟩ := exists_site_of_resolve ending visible stands
  obtain ⟨loaded, target, read, written, rfl, same, view⟩ := get?_of_converted site converted
  obtain ⟨short, -⟩ := site.loaded read
  rw [site.destinationOf_eq] at written ⊢
  obtain ⟨-, name, outer, rfl, leads⟩ := site.reaches.read_writeTarget (site.isWord_targetWord _)
    (site.zero_notMem_targetWord _) (tree.get?_parent site.stands) written
  -- The destination leads to the source when it leads to the location of the source.
  have back : tree.resolve cwd .look (site.front ++ site.targetWord loaded.target) =
      .ok (.file site.location site.content) ↔ name :: outer = site.location := by
    rw [leads tree (.refl tree), Except.ok.injEq]
    constructor
    · exact fun place => (FileTree.placeAt_eq_file place).1.symm
    · intro here
      have present : tree.get? (name :: outer) = some (.file site.content) := by
        rw [here]
        exact site.stands
      rw [FileTree.placeAt, present, here]
  have delivered := FileTree.read_of_resolve (leads after same)
  have source : after.get? site.location = if keep then some (.file site.content) else none := by
    rw [view]
    cases keep with
    | true =>
      simp only [Bool.true_eq_false, false_and, if_false, if_true]
      split
      · rfl
      · exact site.stands
    | false => simp
  refine ⟨?_, rfl, source, ?_, ?_, ?_⟩
  · rw [site.read_eq (.refl tree), if_neg (by omega)]
    exact FileTree.contentAt_of_file site.stands
  · rw [site.read_eq same, if_neg (by omega)]
    cases keep with
    | true => exact FileTree.contentAt_of_file source
    | false => exact FileTree.contentAt_of_none source
  · rw [ne_eq, back, delivered]
    by_cases gone : keep = false ∧ name :: outer = site.location
    · rw [FileTree.contentAt_of_none (by rw [view, if_pos gone])]
      simp [gone.1, gone.2]
    · rw [FileTree.contentAt_of_file (by rw [view, if_neg gone, if_pos rfl])]
      cases keep with
      | true => simp
      | false => simpa using gone
  · intro removed round
    rw [delivered]
    exact FileTree.contentAt_of_none (by rw [view, if_pos ⟨removed, back.mp round⟩])

end Steps

/-! ### Targets behind a link -/

/-- A source file, another file, and a link at the path of the target. -/
def linkedTarget (link : String) : FileTree :=
  ((FileTree.empty.plant [] (Bytes.ofString "a.jsx") (.file (Bytes.ofString "x"))).plant []
    (Bytes.ofString "b.txt") (.file [])).plant [] (Bytes.ofString "a.tsx")
      (.link (Bytes.ofString link))

def linkedSource : Candidate := ⟨Bytes.ofString "a.jsx", .jsx⟩

def linkedFile : Converted := ⟨Bytes.ofString "a.jsx", Bytes.ofString "a.tsx"⟩

theorem visible_linkedSource :
    ∀ name, linkedSource.path.name? = some name → name.head? ≠ some Path.dot := by
  have word : linkedSource.path.name? = some (Bytes.ofString "a.jsx") := by cbv
  intro name found
  rw [word] at found
  cases found
  decide

/-- A link to another file takes the content there. -/
theorem content_of_converted_through_link : ∃ after,
    convert [] false (linkedTarget "b.txt") linkedSource = (after, .converted linkedFile) ∧
      after.read [] linkedFile.destination = .ok (Bytes.ofString "x") := by
  have stands : (linkedTarget "b.txt").resolve [] .remove linkedSource.path =
      .ok (.file [⟨Bytes.ofString "a.jsx", by decide⟩] (Bytes.ofString "x")) := by cbv
  have converted : convert [] false (linkedTarget "b.txt") linkedSource =
      ((convert [] false (linkedTarget "b.txt") linkedSource).1, .converted linkedFile) := by cbv
  have elsewhere : (linkedTarget "b.txt").resolve [] .look linkedFile.destination =
      .ok (.file [⟨Bytes.ofString "b.txt", by decide⟩] []) := by cbv
  have delivered := content_of_converted (by cbv) visible_linkedSource stands converted
  refine ⟨_, converted, delivered.2.2.2.2.1.mpr (.inr ?_)⟩
  rw [elsewhere]
  decide

/-- **A link to the source** loses the content, although the conversion ends well. -/
theorem content_lost_through_link : ∃ after,
    (linkedTarget "a.jsx").resolve [] .remove linkedSource.path =
        .ok (.file [⟨Bytes.ofString "a.jsx", by decide⟩] (Bytes.ofString "x")) ∧
      convert [] false (linkedTarget "a.jsx") linkedSource = (after, .converted linkedFile) ∧
      after.read [] linkedFile.destination = .error .missing := by
  refine ⟨(convert [] false (linkedTarget "a.jsx") linkedSource).1, ?_, ?_, ?_⟩ <;> cbv

end Retarget.Conversion
