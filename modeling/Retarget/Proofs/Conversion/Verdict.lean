/-
**How a conversion ends.**

The tree in front of a conversion tells how it ends, whatever the path of its candidate is: what can
be read can be removed, unless the host refuses it, and writing the target takes no directory or
link away. So removing fails for that reason only once the target is written, and then both files
stay. A conversion that fails earlier has changed nothing.

* `Conversion.convert_of_stays`: a conversion that does not move its file leaves the tree as it is;
* `Conversion.convert_of_moved`: a conversion that moves its file writes at one location, and
  removes at one unless the file is held;
* `Conversion.unchanged_of_unconverted`: what a conversion that fails leaves, and when it does.
-/

import Retarget.Proofs.Conversion.Apart

namespace Retarget.Conversion

variable [Host] {tree : FileTree} {cwd target : Location} {keep : Bool} {candidate : Candidate}
  {file : Loaded}

omit [Host] in
/-- What is loaded was read. -/
theorem read_of_load (loads : load tree cwd candidate = .ok file) :
    tree.read cwd candidate.path = .ok file.content := by
  unfold load FileTree.readText at loads
  cases read : tree.read cwd candidate.path with
  | error error => simp [read, Except.map] at loads
  | ok content =>
    cases decoded : Utf8.decode? content with
    | none => simp [read, decoded, Except.map] at loads
    | some text =>
      simp only [read, decoded, Except.map, Except.ok.injEq] at loads
      rw [← loads]

/-- **A conversion that does not move its file** leaves the tree as it is. -/
theorem convert_of_stays (stays : ∀ file target, fate tree cwd candidate ≠ .moved file target) :
    convert cwd keep tree candidate = (tree, verdict tree cwd keep candidate) := by
  cases loads : load tree cwd candidate with
  | error error => simp only [convert, verdict, fate, loads]
  | ok file =>
    cases written : tree.writeTarget cwd (destinationOf candidate file) with
    | error error =>
      simp only [convert, verdict, fate, loads, store, FileTree.write_eq, written, Except.map]
    | ok target => exact absurd (fate_eq_moved_iff.mpr ⟨loads, written⟩) (stays file target)

/-- **A conversion that moves its file** writes at one location. It removes what stands at another
one, unless originals are kept or the host refuses it. -/
theorem convert_of_moved (keep : Bool) (moved : fate tree cwd candidate = .moved file target) :
    ∃ location, held? tree cwd candidate = Host.unremoved? location.tail ∧
      (held? tree cwd candidate = none →
        tree.removeTarget cwd candidate.path = .ok location) ∧
      convert cwd keep tree candidate =
        (if Discards tree cwd keep candidate then
          (tree.put target (.file file.content)).erase location
          else tree.put target (.file file.content),
        verdict tree cwd keep candidate) := by
  obtain ⟨loads, written⟩ := fate_eq_moved_iff.mp moved
  obtain ⟨location, present, removes⟩ := FileTree.removes_of_read (read_of_load loads)
  have stored := FileTree.sameFrame_of_writeTarget written file.content
  -- Writing may replace what is removed next, but it leaves something there.
  have there := FileTree.Grows.put tree target (.file file.content) location present
  have before := removes tree (.refl tree) present
  have held : held? tree cwd candidate = Host.unremoved? location.tail := by
    rw [held?, before]
    cases Host.unremoved? location.tail <;> rfl
  refine ⟨location, held, fun free => ?_, ?_⟩
  · rw [before, ← held, free]
    rfl
  · simp only [convert, loads, store, FileTree.write_eq, written, Except.map, discard,
      FileTree.remove_eq, removes _ stored there, verdict, moved, Discards, held]
    cases keep with
    | true => simp
    | false => cases Host.unremoved? location.tail <;> simp [Host.grant]

/-- **A conversion ends** as the tree in front of it tells. -/
theorem convert_verdict (cwd : Location) (keep : Bool) (tree : FileTree) (candidate : Candidate) :
    (convert cwd keep tree candidate).2 = verdict tree cwd keep candidate := by
  by_cases moves : ∃ file target, fate tree cwd candidate = .moved file target
  · obtain ⟨file, target, moved⟩ := moves
    obtain ⟨location, -, -, converts⟩ := convert_of_moved keep moved
    rw [converts]
  · rw [convert_of_stays fun file target moved => moves ⟨file, target, moved⟩]

/-- Where removing is not refused, no file that was read is held. -/
theorem held?_of_moved (removes : Host.Removes)
    (moved : fate tree cwd candidate = .moved file target) : held? tree cwd candidate = none := by
  obtain ⟨location, held, -⟩ := convert_of_moved true moved
  rw [held, removes]

/-- **A conversion that fails** before its file is to be removed leaves the tree as it is. Where
removing is not refused, no conversion fails later. -/
theorem unchanged_of_unconverted {failed : Unconverted}
    (ended : (convert cwd keep tree candidate).2 = .unconverted failed) :
    failed.path = candidate.path ∧
      (failed.stage ≠ .delete → (convert cwd keep tree candidate).1 = tree) ∧
      (Host.Removes → failed.stage = .read ∨ failed.stage = .write) := by
  rw [convert_verdict] at ended
  obtain ⟨named, held⟩ := stays_of_verdict ended
  refine ⟨named.symm, fun early => ?_, fun removes => ?_⟩
  · rw [convert_of_stays fun file target moved => early (held file target moved).2.1]
  · cases comes : fate tree cwd candidate with
    | unread error =>
      simp only [verdict, comes, Conversion.failed, Outcome.unconverted.injEq] at ended
      exact .inl (by rw [← ended])
    | unwritten error =>
      simp only [verdict, comes, Conversion.failed, Outcome.unconverted.injEq] at ended
      exact .inr (by rw [← ended])
    | moved file target =>
      have refused := (held file target comes).2.2
      rw [held?_of_moved removes comes] at refused
      cases refused

end Retarget.Conversion
