/-
**Where a cleaned path leads.**

Cleaning looks at no tree: a `..` takes back the name before it, whatever that name leads to. A tree
goes up from the directory that the name leads to. These are one directory where the name is that of
a directory, and for a symbolic link where the link leads into the directory in which it stands. So
along the components of a path that returns from its links in this manner, those that are kept so
far lead where all of them lead, and the cleaned path leads to the same directory.

* `Path.stepsOf` and `FileTree.approach_components`: the components of a path are its steps;
* `FileTree.Leads.keep`: one more component;
* `FileTree.ReturnsFromLinks`: each `..` behind a link leads back to where the link stands;
* `FileTree.leads_keptOf`: the components that are kept;
* `FileTree.resolve_clean`: the cleaned path.
-/

import Retarget.Proofs.FileTree.Arrival
import Retarget.Proofs.Path.Cleaning

namespace Retarget

open Retarget.Path (Component keep keptOf slash)

namespace Path

variable {part : Component} {text : Bytes}

/-! ### Components as steps -/

/-- The step of a component; the `/` in front says only where a path starts. -/
def Component.step? (part : Component) : Option Step := Step.ofSegment? part.segment

/-- The steps of components. -/
def stepsOf (parts : List Component) : List Step := parts.filterMap Component.step?

@[simp] theorem stepsOf_append (parts others : List Component) :
    stepsOf (parts ++ others) = stepsOf parts ++ stepsOf others := List.filterMap_append

@[simp] theorem Component.step?_root : Component.root.step? = none := rfl

@[simp] theorem Component.step?_here : Component.here.step? = some .stay := rfl

@[simp] theorem Component.step?_up : Component.up.step? = some .up := rfl

theorem Component.step?_of_ofSegment? (reads : Component.ofSegment? text = some part) :
    part.step? = Step.ofSegment? text := by
  rw [Component.step?, (Component.text_of_ofSegment? reads).2]

/-- A segment that gives no component asks for no step that leads elsewhere. -/
theorem Component.idle_of_ofSegment? (skipped : Component.ofSegment? text = none) :
    Step.ofSegment? text = none ∨ Step.ofSegment? text = some .stay := by
  unfold Component.ofSegment? at skipped
  split at skipped
  · next idle =>
    rcases idle with rfl | rfl
    · exact .inl rfl
    · exact .inr rfl
  · split at skipped <;> cases skipped

/-- The first component of a path asks for the step of the first segment. -/
theorem Component.step?_of_ofFront? (reads : Component.ofFront? [slash] text = some part) :
    part.step? = Step.ofSegment? text := by
  unfold Component.ofFront? at reads
  split at reads
  · next empty =>
    cases reads
    exact empty ▸ rfl
  · split at reads
    · next dotted =>
      cases reads
      exact dotted ▸ rfl
    · exact Component.step?_of_ofSegment? reads

/-- A path that is not empty has a first component. -/
theorem Component.exists_ofFront? (text : Bytes) :
    ∃ part, Component.ofFront? [slash] text = some part := by
  by_cases empty : text = []
  · exact ⟨.root, by simp [Component.ofFront?, empty]⟩
  · by_cases dotted : text = [dot]
    · exact ⟨.here, by simp [Component.ofFront?, dotted]⟩
    · by_cases dots : text = [dot, dot]
      · exact ⟨.up, by simp [Component.ofFront?, Component.ofSegment?, dots]⟩
      · exact ⟨.name text,
          by simp [Component.ofFront?, Component.ofSegment?, empty, dotted, dots]⟩

/-- A name behind another component asks for the step of its word. -/
theorem Component.IsInner.step?_name {word : Bytes} (inner : (Component.name word).IsInner) :
    IsWord word ∧ (Component.name word).step? = some (Step.ofWord word) := by
  have reads : Component.ofSegment? word = some (.name word) := inner.2
  have isWord : IsWord word := by
    refine ⟨inner.text_ne_nil, ?_, ?_, inner.1⟩
    · rintro rfl
      cases reads
    · rintro rfl
      cases reads
  exact ⟨isWord, Step.ofSegment?_word isWord⟩

end Path

open Retarget.Path (stepsOf)

namespace FileTree

variable {tree : FileTree} {links left more : Nat} {here home cwd origin : Location} {path : Path}
  {part : Component} {parts kept before behind : List Component}

/-- Steps that start alike lead to the same when the rests of them do. -/
theorem approach_filterMap_cons {α β : Type} {step? : α → Option Step} {step?' : β → Option Step}
    {first : α} {first' : β} {rest : List α} {rest' : List β} (front : step? first = step?' first')
    (behind : ∀ (links : Nat) (here : Location), tree.approach links here (rest.filterMap step?) =
      tree.approach links here (rest'.filterMap step?')) :
    tree.approach links here ((first :: rest).filterMap step?) =
      tree.approach links here ((first' :: rest').filterMap step?') := by
  cases step : step? first with
  | none =>
    rw [List.filterMap_cons_none step, List.filterMap_cons_none (front.symm.trans step)]
    exact behind links here
  | some one =>
    rw [List.filterMap_cons_some step, List.filterMap_cons_some (front.symm.trans step)]
    calc tree.approach links here ([one] ++ rest.filterMap step?)
        = (tree.approach links here [one]).bind fun way =>
            tree.approach way.1 way.2 (rest.filterMap step?) := approach_append _ _
      _ = (tree.approach links here [one]).bind fun way =>
            tree.approach way.1 way.2 (rest'.filterMap step?') := by simp only [behind]
      _ = tree.approach links here ([one] ++ rest'.filterMap step?') :=
        (approach_append _ _).symm

/-- Segments lead where their components lead. -/
theorem approach_segments (list : List Bytes) :
    tree.approach links here (list.filterMap Step.ofSegment?) =
      tree.approach links here (stepsOf (list.filterMap Component.ofSegment?)) := by
  induction list generalizing links here with
  | nil => rfl
  | cons segment rest ih =>
    cases reads : Component.ofSegment? segment with
    | none =>
      rw [List.filterMap_cons_none reads]
      rcases Component.idle_of_ofSegment? reads with none | stay
      · rw [List.filterMap_cons_none none, ih]
      · rw [List.filterMap_cons_some stay, approach, ih]
    | some part =>
      rw [List.filterMap_cons_some reads]
      exact approach_filterMap_cons (Component.step?_of_ofSegment? reads).symm fun _ _ => ih

/-- **A path leads where its components lead.** -/
theorem approach_components (path : Path) :
    tree.approach links here path.way = tree.approach links here (stepsOf path.components) := by
  by_cases empty : path = []
  · subst empty
    rfl
  · obtain ⟨first, rest, split⟩ := exists_segments slash path
    obtain ⟨part, front⟩ := Component.exists_ofFront? first
    rw [Path.way, split, Path.components_eq empty split, front, Option.toList_some,
      List.singleton_append]
    exact approach_filterMap_cons (Component.step?_of_ofFront? front).symm
      fun _ _ => approach_segments rest

/-- A path that leads to a directory, by its components. -/
theorem resolve_directory_iff_components : tree.resolve cwd .look path = .ok (.directory home) ↔
    0 ∉ path ∧ path ≠ [] ∧ path.length < 4096 ∧
      ∃ left, tree.approach 40 (start cwd path) (stepsOf path.components) = .ok (left, home) := by
  rw [resolve_directory_iff]
  simp only [approach_components]

/-! ### One more component -/

/-- Components that lead somewhere with `left` links or more to follow behind them. -/
def Leads (tree : FileTree) (origin : Location) (parts : List Component) (left : Nat)
    (here : Location) : Prop :=
  ∃ more, left ≤ more ∧ tree.approach 40 origin (stepsOf parts) = .ok (more, here)

/-- A component that is kept leads on. -/
theorem Leads.append (leads : tree.Leads origin parts links here)
    (stepped : tree.approach links here (stepsOf [part]) = .ok (left, home)) :
    tree.Leads origin (parts ++ [part]) left home := by
  obtain ⟨more, enough, approached⟩ := leads
  obtain ⟨-, left', enough', further⟩ := approach_of_le stepped enough
  refine ⟨left', enough', ?_⟩
  rw [Path.stepsOf_append]
  exact approach_append_eq_ok_iff.mpr ⟨_, approached, further⟩

/-- **A name that is taken back** leads back to where it stands, when it leads to a directory there
or returns from the link there. -/
theorem Leads.back {word : Bytes} (inner : (Component.name word).IsInner)
    (leads : tree.Leads origin (parts ++ [.name word]) left here)
    (returns : ∀ (links : Nat) (parent : Location) (name : Name) (target : Path),
      tree.approach 40 origin (stepsOf parts) = .ok (links, parent) → name.bytes = word →
      tree.get? (name :: parent) = some (.link target) → here.tail = parent) :
    tree.Leads origin parts left here.tail := by
  obtain ⟨more, enough, approached⟩ := leads
  rw [Path.stepsOf_append] at approached
  obtain ⟨⟨links, parent⟩, outer, stepped⟩ := approach_append_eq_ok_iff.mp approached
  replace stepped : tree.approach links parent [Step.ofWord word] = .ok (more, here) := by
    have step := inner.step?_name.2
    rwa [stepsOf, List.filterMap_cons_some step] at stepped
  obtain ⟨used, -⟩ := approach_of_le stepped (Nat.le_refl _)
  suffices here.tail = parent from ⟨links, Nat.le_trans enough used, this ▸ outer⟩
  cases named : Name.ofBytes? word with
  | none => simp [Step.ofWord, named, approach] at stepped
  | some name =>
    rw [Step.ofWord, named, approach] at stepped
    split at stepped
    · cases stepped
    · rw [approach] at stepped
      cases stepped
      rfl
    · cases stepped
    · next target link =>
      exact returns links parent name target outer (Name.bytes_of_ofBytes? named) link

/-- **What is kept** with one more component leads where the component leads. -/
theorem Leads.keep (orderly : Path.IsOrderly kept.reverse) (rooted : .root ∈ kept → origin = [])
    (leads : tree.Leads origin kept.reverse links here)
    (stepped : tree.approach links here (stepsOf [part]) = .ok (left, home))
    (returns : ∀ (word : Bytes) (outer : List Component), part = .up → kept = .name word :: outer →
      ∀ (links : Nat) (parent : Location) (name : Name) (target : Path),
        tree.approach 40 origin (stepsOf outer.reverse) = .ok (links, parent) →
        name.bytes = word → tree.get? (name :: parent) = some (.link target) →
        here.tail = parent) :
    tree.Leads origin (keep kept part).reverse left home := by
  have pushed : tree.Leads origin (part :: kept).reverse left home := by
    rw [List.reverse_cons]
    exact leads.append stepped
  cases part with
  | root | name word => exact pushed
  | here =>
    obtain ⟨rfl, rfl⟩ : links = left ∧ here = home := by simpa [stepsOf, approach] using stepped
    exact leads
  | up =>
    obtain ⟨rfl, rfl⟩ : links = left ∧ here.tail = home := by
      simpa [stepsOf, approach] using stepped
    cases kept with
    | nil => exact pushed
    | cons last outer =>
      rw [List.reverse_cons] at leads orderly
      cases last with
      | here | up => exact pushed
      | root =>
        -- Nothing but `/` is kept, so the way is still at its start, which has no parent.
        obtain rfl : outer = [] := List.reverse_eq_nil_iff.mp orderly.eq_nil_of_append_root
        obtain ⟨more, enough, approached⟩ := leads
        have top : here = [] := by
          have stays : tree.approach 40 origin [] = .ok (more, here) := approached
          rw [approach, rooted List.mem_cons_self] at stays
          cases stays
          rfl
        exact ⟨more, enough, by rw [top] at approached ⊢; exact approached⟩
      | name word =>
        have inner : (Component.name word).IsInner := by
          rcases orderly.cases_of_mem (List.mem_append_right _ List.mem_cons_self) with
            root | here | inner
          · cases root
          · cases here
          · exact inner
        exact leads.back inner (returns word outer rfl rfl)

/-! ### Paths that return from links -/

/-- Whether each `..` of a path that takes back the name of a symbolic link leads, from where the
link leads, to the directory in which the link stands. -/
def ReturnsFromLinks (tree : FileTree) (cwd : Location) (path : Path) : Prop :=
  ∀ (before behind : List Component) (name : Name) (parent place : Location) (target : Path),
    path.components = before ++ .up :: behind →
    tree.resolve cwd .remove (Path.clean (Path.render before)) =
      .ok (.link (name :: parent) target) →
    tree.resolve cwd .look (Path.render before) = .ok (.directory place) →
    place.tail = parent

/-- A path without `..` takes nothing back. -/
theorem returnsFromLinks_of_notMem (forward : .up ∉ path.components) :
    tree.ReturnsFromLinks cwd path := by
  intro before behind _ _ _ _ split
  exact absurd (split ▸ List.mem_append_right _ List.mem_cons_self) forward

/-- In a tree without links each path returns. -/
theorem IsPlain.returnsFromLinks (plain : tree.IsPlain) (cwd : Location) (path : Path) :
    tree.ReturnsFromLinks cwd path :=
  fun _ _ _ _ _ target _ removed _ => absurd (get?_of_resolve_link removed) (plain _ target)

/-- The components that a path starts with start where the path does. -/
theorem start_render (split : path.components = before ++ behind) (nonempty : before ≠ []) :
    start cwd (Path.render before) = start cwd path := by
  have orderly : Path.IsOrderly before :=
    (Path.isOrderly_components path).sublist (split ▸ List.sublist_append_left _ _)
  have absolute : (Path.render before).isAbsolute = path.isAbsolute := by
    rw [Bool.eq_iff_iff, Path.isAbsolute_iff, Path.isAbsolute_iff, Path.components_render orderly,
      split, List.head?_append_of_ne_nil _ nonempty]
  rw [start, start, absolute]

theorem start_clean (path : Path) : start cwd path.clean = start cwd path := by
  rw [start, start, Path.isAbsolute_clean]

/-- A link whose name is kept last is what the cleaned path names. -/
theorem resolve_clean_of_link {outer : List Component} {name : Name} {parent : Location}
    {target : Path} (clean : 0 ∉ path) (nonempty : path ≠ []) (short : path.length < 4096)
    (ends : keptOf path.components = .name name.bytes :: outer)
    (approached : tree.approach 40 (start cwd path) (stepsOf outer.reverse) = .ok (links, parent))
    (link : tree.get? (name :: parent) = some (.link target)) :
    tree.resolve cwd .remove path.clean = .ok (.link (name :: parent) target) := by
  have orderly : Path.IsOrderly outer.reverse := by
    have kept := Path.keptOf_sublist path.components
    rw [ends, List.reverse_cons] at kept
    exact (Path.isOrderly_components path).sublist ((List.sublist_append_left _ _).trans kept)
  have shape : path.clean = (Path.render outer.reverse).opened ++ name.bytes := by
    rw [Path.clean_eq, ends, if_neg (by simp), List.reverse_cons, Path.render_append, Path.under_eq]
    rfl
  have reaches : tree.Reaches cwd (Path.render outer.reverse).opened links parent := by
    refine ⟨Path.isFront_opened _, ?_, ?_⟩
    · have unbroken := Path.zero_notMem_clean clean
      rw [shape, List.mem_append, not_or] at unbroken
      exact unbroken.1
    · have same : start cwd (Path.render outer.reverse).opened = start cwd path := by
        rw [← start_clean path, start, start, shape, Path.isAbsolute_append name.isWord]
      rw [same, Path.way_opened, approach_components, Path.components_render orderly]
      exact approached
  have fits := Path.length_clean_le nonempty
  rw [shape] at fits ⊢
  rw [reaches.resolve_name (.inl rfl), if_neg (by omega), placeAt, link]

/-- The name of a link that is taken back stands where the `..` leads. -/
theorem ReturnsFromLinks.tail_eq (returns : tree.ReturnsFromLinks cwd path) (clean : 0 ∉ path)
    (short : path.length < 4096) (split : path.components = before ++ .up :: behind)
    (front : tree.approach 40 (start cwd path) (stepsOf before) = .ok (links, here))
    {outer : List Component} {name : Name} {parent : Location} {target : Path}
    (ends : keptOf before = .name name.bytes :: outer)
    (reached : tree.approach 40 (start cwd path) (stepsOf outer.reverse) = .ok (left, parent))
    (link : tree.get? (name :: parent) = some (.link target)) : here.tail = parent := by
  have nonempty : before ≠ [] := by
    rintro rfl
    cases ends
  have origin : start cwd (Path.render before) = start cwd path := start_render split nonempty
  have sub : before.Sublist path.components := split ▸ List.sublist_append_left _ _
  have orderly := (Path.isOrderly_components path).sublist sub
  have whole := Path.components_render orderly
  -- The path before the `..` is no longer than the whole path, and leads to `here`.
  have shorter := Path.render_sublist path sub
  have clean' : 0 ∉ Path.render before := fun inside => clean (shorter.subset inside)
  have nonempty' := Path.render_ne_nil orderly nonempty
  have short' := Nat.lt_of_le_of_lt shorter.length_le short
  refine returns before behind name parent here target split ?_ ?_
  · rw [← whole] at ends
    rw [← origin] at reached
    exact resolve_clean_of_link clean' nonempty' short' ends reached link
  · rw [resolve_directory_iff_components, whole, origin]
    exact ⟨clean', nonempty', short', links, front⟩

/-! ### The cleaned path -/

/-- **The components that are kept** lead where all components lead. -/
theorem leads_keptOf (returns : tree.ReturnsFromLinks cwd path) (clean : 0 ∉ path)
    (short : path.length < 4096) (split : path.components = before ++ behind)
    (approached : tree.approach 40 (start cwd path) (stepsOf before) = .ok (left, home)) :
    tree.Leads (start cwd path) (keptOf before).reverse left home := by
  induction before using List.reverseRecOn generalizing behind left home with
  | nil => exact ⟨left, Nat.le_refl _, approached⟩
  | append_singleton before part ih =>
    rw [Path.stepsOf_append] at approached
    obtain ⟨⟨links, here⟩, front, stepped⟩ := approach_append_eq_ok_iff.mp approached
    rw [List.append_assoc, List.singleton_append] at split
    have orderly := Path.isOrderly_components path
    have sub : (keptOf before).reverse.Sublist path.components :=
      (Path.keptOf_sublist before).trans (split ▸ List.sublist_append_left _ _)
    rw [keptOf, List.foldl_append, List.foldl_cons, List.foldl_nil]
    refine (ih split front).keep (orderly.sublist sub) (fun rooted => ?_) stepped ?_
    · have absolute := Path.isAbsolute_iff.mpr
        (orderly.head?_of_mem (sub.subset (List.mem_reverse.mpr rooted)))
      rw [start, if_pos absolute]
    · rintro word outer rfl ends links' parent name target reached rfl link
      exact returns.tail_eq clean short split front ends reached link

/-- **A cleaned path** leads to the directory that the path leads to, when the path returns from its
links. -/
theorem resolve_clean (resolved : tree.resolve cwd .look path = .ok (.directory home))
    (returns : tree.ReturnsFromLinks cwd path) :
    tree.resolve cwd .look path.clean = .ok (.directory home) := by
  obtain ⟨clean, nonempty, short, left, approached⟩ := resolve_directory_iff_components.mp resolved
  obtain ⟨more, -, kept⟩ :=
    leads_keptOf returns clean short (List.append_nil path.components).symm approached
  refine resolve_directory_iff_components.mpr ⟨Path.zero_notMem_clean clean, Path.clean_ne_nil path,
    Nat.lt_of_le_of_lt (Path.length_clean_le nonempty) short, more, ?_⟩
  rw [start_clean, Path.components_clean]
  split
  · next empty =>
    rw [empty] at kept
    simpa [stepsOf, approach] using kept
  · exact kept

end FileTree

end Retarget
