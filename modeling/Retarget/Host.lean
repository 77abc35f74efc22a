/-
**What the host decides.**

A file tree does not tell everything about a run. Which names a walk passes over as hidden is a rule
of the walker, and permissions may keep a directory from being listed, a file from being written or
an entry from being removed. All this is fixed for a run and stands here as its parameter.

* `Host`: what a run takes from its host;
* `Host.refusing`: a host that hides all names with a dot in front, and one that refuses nothing;
* `Host.grant`: an operation that the host may refuse;
* `Host.PassesOver`: a rule for names that the walker passes over;
* `Host.Removes`: a host that lets everything be removed.
-/

import Retarget.FileTree.Basic
import Retarget.FileTree.Error

namespace Retarget

/-- What a run takes from its host: the hidden names, and why an operation is refused at a
location. -/
class Host where
  /-- The names that a walk passes over as hidden. -/
  hides : Name → Bool
  isDotted_of_hides : ∀ {name : Name}, hides name = true → name.isDotted = true
  /-- Names with a dot at both ends are left to the walker. -/
  hides_of_isDotted : ∀ {name : Name}, name.isDotted = true →
    name.bytes.getLast? ≠ some Path.dot → hides name = true
  /-- Why a directory cannot be listed. -/
  unlisted? : Location → Option FileError
  /-- Why no file can be written at a location. -/
  unwritten? : Location → Option FileError
  /-- Why nothing can be removed from a directory. -/
  unremoved? : Location → Option FileError

namespace Host

/-- A host with a walker that hides all names with a dot in front. Names that end in a dot as well
are no exception: of a directory `.a.` in a root `r` the walker logs
`ignoring r/.a.: Ignore(IgnoreMatch(Hidden))`. -/
@[reducible] def refusing (unlisted? unwritten? unremoved? : Location → Option FileError) :
    Host where
  hides := Name.isDotted
  isDotted_of_hides := id
  hides_of_isDotted dotted _ := dotted
  unlisted? := unlisted?
  unwritten? := unwritten?
  unremoved? := unremoved?

/-- A host that refuses nothing. -/
instance : Host := refusing (fun _ => none) (fun _ => none) (fun _ => none)

/-- The result of an operation, unless there is a reason to refuse it. -/
def grant {α : Type} (refusal : Option FileError) (result : α) : Except FileError α :=
  match refusal with
  | some error => .error error
  | none => .ok result

theorem grant_eq_ok_iff {α : Type} {refusal : Option FileError} {result value : α} :
    grant refusal result = .ok value ↔ refusal = none ∧ result = value := by
  cases refusal <;> simp [grant]

theorem grant_eq_error_iff {α : Type} {refusal : Option FileError} {result : α}
    {error : FileError} : grant refusal result = .error error ↔ refusal = some error := by
  cases refusal <;> simp [grant]

theorem map_grant {α β : Type} (refusal : Option FileError) (result : α) (f : α → β) :
    (grant refusal result).map f = grant refusal (f result) := by
  cases refusal <;> rfl

theorem hides_eq_false [Host] {name : Name} (plain : name.isDotted = false) :
    Host.hides name = false :=
  Bool.eq_false_iff.mpr fun hidden => by simp [isDotted_of_hides hidden] at plain

/-- A name that ends in no dot is hidden when it starts with one. -/
theorem hides_eq_isDotted [Host] {name : Name} (last : name.bytes.getLast? ≠ some Path.dot) :
    Host.hides name = name.isDotted :=
  Bool.eq_iff_iff.mpr ⟨isDotted_of_hides, fun dotted => hides_of_isDotted dotted last⟩

/-- Whether the walker passes over all names that a rule hides. -/
def PassesOver [Host] (hidden : Name → Bool) : Prop :=
  ∀ name, hidden name = true → Host.hides name = true

/-- Whether removing is nowhere refused. -/
def Removes [Host] : Prop := ∀ directory, Host.unremoved? directory = none

end Host

end Retarget
