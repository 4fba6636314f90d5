import LogPattern.Proofs.Regex.Mirror
import LogPattern.Regex.Flags

/-!
# Tests on the units of a tree

What the reader has read stays in the tree.  So a test that the flags, atoms and class
items of a finished tree pass has been passed by every part on the way.
-/

namespace LogPattern.Regex

/-- A test for flag changes, atoms, and the items of classes that hold no others. -/
structure UnitTest where
  change : FlagChange → Bool
  atom : Atom → Bool
  item : ClassTree → Bool

variable {test : UnitTest}

/-! ## Trees -/

namespace ClassTree

mutual
def passes (test : UnitTest) : ClassTree → Bool
  | .bracketed _ inner => inner.passes test
  | .union items => allPass test items
  | .operation _ left right => left.passes test && right.passes test
  | item => test.item item

def allPass (test : UnitTest) : List ClassTree → Bool
  | [] => true
  | item :: rest => item.passes test && allPass test rest
end

theorem allPass_iff (items : List ClassTree) :
    allPass test items = true ↔ ∀ item ∈ items, item.passes test = true := by
  induction items with
  | nil => simp [allPass]
  | cons item rest ih => simp [allPass, ih]

end ClassTree

def GroupKind.passes (test : UnitTest) : GroupKind → Bool
  | .capture _ _ => true
  | .plain change => test.change change

namespace Tree

mutual
def passes (test : UnitTest) : Tree → Bool
  | .empty => true
  | .flags change => test.change change
  | .one atom => test.atom atom
  | .bracketed _ inner => inner.passes test
  | .repeated _ _ operand => operand.passes test
  | .group kind content => kind.passes test && content.passes test
  | .choice branches => allPass test branches
  | .sequence items => allPass test items

def allPass (test : UnitTest) : List Tree → Bool
  | [] => true
  | tree :: rest => tree.passes test && allPass test rest
end

theorem allPass_iff (trees : List Tree) :
    allPass test trees = true ↔ ∀ tree ∈ trees, tree.passes test = true := by
  induction trees with
  | nil => simp [allPass]
  | cons tree rest ih => simp [allPass, ih]

end Tree

/-! ## Parts -/

namespace Part

def Pass (test : UnitTest) (parts : List Part) : Prop :=
  ∀ part ∈ parts, part.tree.passes test = true

theorem pass_nil : Pass test [] := by simp [Pass]

@[simp] theorem pass_cons {part : Part} {parts : List Part} :
    Pass test (part :: parts) ↔ part.tree.passes test = true ∧ Pass test parts := by
  simp [Pass]

theorem pass_trees {parts : List Part} :
    Tree.allPass test (parts.reverse.map (·.tree)) = true ↔ Pass test parts := by
  simp [Tree.allPass_iff, Pass]

theorem passes_sequence {parts : List Part} :
    (sequence parts).tree.passes test = true ↔ Pass test parts := by
  match parts with
  | [] => simp [sequence, Tree.passes, pass_nil]
  | [part] => simp [sequence, pass_nil]
  | first :: second :: rest =>
      rw [← pass_trees]
      simp only [sequence, Tree.passes]

theorem passes_choice {earlier : List Part} {last : Part} :
    (choice earlier last).tree.passes test = true ↔
      last.tree.passes test = true ∧ Pass test earlier := by
  unfold choice
  split
  · next hempty => simp [List.isEmpty_iff.1 hempty, pass_nil]
  · rw [← pass_cons, ← pass_trees]
    simp only [Tree.passes]

end Part

/-! ## Progress -/

structure OpenGroup.Passes (test : UnitTest) (group : OpenGroup) : Prop where
  kind : group.kind.passes test = true
  items : Part.Pass test group.itemsOutside
  branches : Part.Pass test group.branchesOutside

namespace Progress

structure Passes (test : UnitTest) (state : Progress) : Prop where
  items : Part.Pass test state.items
  branches : Part.Pass test state.branches
  openGroups : ∀ group ∈ state.openGroups, group.Passes test

variable {state next final : Progress} {action : Action}

theorem passes_content :
    state.content.tree.passes test = true ↔
      Part.Pass test state.items ∧ Part.Pass test state.branches := by
  rw [content, Part.passes_choice, Part.passes_sequence]

end Progress

def Action.passes (test : UnitTest) : Action → Bool
  | .push part => part.tree.passes test
  | .direct change => test.change change
  | .enter change => test.change change
  | _ => true

namespace Progress

variable {state next final : Progress} {action : Action}

theorem Passes.of_openGroup {kind : GroupKind} {verbose : Bool}
    (h : state.openGroup kind verbose = .ok next) (hnext : next.Passes test) :
    kind.passes test = true ∧ state.Passes test := by
  obtain ⟨-, rfl⟩ := Action.openGroup_inv h
  obtain ⟨hgroup, houter⟩ := List.forall_mem_cons.1 hnext.openGroups
  exact ⟨hgroup.kind, hgroup.items, hgroup.branches, houter⟩

/-- Nothing that has been read before is lost by an action. -/
theorem Passes.of_apply (h : action.apply state = .ok next) (hnext : next.Passes test) :
    action.passes test = true ∧ state.Passes test := by
  cases action with
  | push part =>
      cases h
      obtain ⟨hpart, hitems⟩ := Part.pass_cons.1 hnext.items
      exact ⟨hpart, hitems, hnext.branches, hnext.openGroups⟩
  | direct change =>
      cases h
      obtain ⟨hpart, hitems⟩ := Part.pass_cons.1 hnext.items
      exact ⟨hpart, hitems, hnext.branches, hnext.openGroups⟩
  | enter change => exact of_openGroup h hnext
  | capture name =>
      simp only [Action.apply, openCapture] at h
      split at h
      · cases h
      · obtain ⟨-, hstate⟩ := of_openGroup h hnext
        exact ⟨rfl, hstate.items, hstate.branches, hstate.openGroups⟩
  | leave =>
      obtain ⟨inner, outer, hopen, rfl⟩ := Action.closeGroup_inv h
      obtain ⟨hgroup, hitems⟩ := Part.pass_cons.1 hnext.items
      rw [Part.group, Tree.passes, Bool.and_eq_true, passes_content] at hgroup
      refine ⟨rfl, hgroup.2.1, hgroup.2.2, ?_⟩
      rw [hopen, List.forall_mem_cons]
      exact ⟨⟨hgroup.1, hitems, hnext.branches⟩, hnext.openGroups⟩
  | branch =>
      cases h
      obtain ⟨hlast, hbranches⟩ := Part.pass_cons.1 hnext.branches
      exact ⟨rfl, Part.passes_sequence.1 hlast, hbranches, hnext.openGroups⟩
  | again counts greedy =>
      obtain ⟨last, items, hitems, rfl⟩ := Action.repeatLast_inv h
      obtain ⟨hlast, hrest⟩ := Part.pass_cons.1 hnext.items
      rw [Part.repeated, Tree.passes] at hlast
      exact ⟨rfl, by rw [hitems]; exact Part.pass_cons.2 ⟨hlast, hrest⟩, hnext.branches,
        hnext.openGroups⟩

theorem Reads.passes {level : Nat} {text back : List Char} (h : Reads level state text final back)
    (hfinal : final.Passes test) : state.Passes test := by
  induction h with
  | stay => exact hfinal
  | part _ _ hnext _ _ ih => exact (Passes.of_apply hnext (ih hfinal)).2

end Progress

/-! ## Classes -/

namespace ClassTree

theorem passes_of_ofItems {items : List ClassTree} (h : (ofItems items).passes test = true) :
    ∀ item ∈ items, item.passes test = true := by
  match items with
  | [] => simp
  | [item] => simpa [ofItems] using h
  | first :: second :: rest =>
      simp only [ofItems, passes, allPass_iff, List.mem_reverse] at h
      exact h

def PendingPasses (test : UnitTest) (pending : Option (ClassOperator × ClassTree)) : Prop :=
  ∀ op left, pending = some (op, left) → left.passes test = true

theorem passes_of_combine {pending : Option (ClassOperator × ClassTree)} {right : ClassTree}
    (h : (combine pending right).passes test = true) :
    PendingPasses test pending ∧ right.passes test = true := by
  cases pending with
  | none => exact ⟨by simp [PendingPasses], h⟩
  | some pair =>
      rw [combine, passes, Bool.and_eq_true] at h
      refine ⟨fun op left heq => ?_, h.2⟩
      cases heq
      exact h.1

end ClassTree

def OpenClass.Passes (test : UnitTest) (cls : OpenClass) : Prop :=
  (∀ item ∈ cls.outerItems, item.passes test = true) ∧
    ClassTree.PendingPasses test cls.outerPending

/-- What has been read at a place passes a test; around the outermost class there is nothing. -/
structure ClassPlace.Passes (test : UnitTest) (place : ClassPlace) : Prop where
  items : ∀ item ∈ place.items, item.passes test = true
  pending : ClassTree.PendingPasses test place.pending
  outer : ∀ cls ∈ (place.current :: place.outer).dropLast, cls.Passes test

theorem ClassPlace.passes_content {place : ClassPlace} (h : place.content.passes test = true) :
    (∀ item ∈ place.items, item.passes test = true) ∧
      ClassTree.PendingPasses test place.pending := by
  obtain ⟨hpending, hitems⟩ := ClassTree.passes_of_combine h
  exact ⟨ClassTree.passes_of_ofItems hitems, hpending⟩

/-- What has been read of a class is part of its tree. -/
theorem ClassRun.passes {verbose : Bool} {place : ClassPlace} {text rest : List Char} {tree : Tree}
    (h : ClassRun verbose tree rest place text) (htree : tree.passes test = true) :
    place.Passes test := by
  induction h with
  | named _ _ _ ih => exact ⟨(List.forall_mem_cons.1 ih.items).2, ih.pending, ih.outer⟩
  | enter _ _ _ _ _ ih =>
      have houter := ih.outer
      rw [ClassPlace.enter, List.dropLast_cons_cons, List.forall_mem_cons] at houter
      exact ⟨houter.1.1, houter.1.2, houter.2⟩
  | leave _ houter _ ih =>
      obtain ⟨hinner, houterItems⟩ := List.forall_mem_cons.1 ih.items
      rw [ClassTree.passes] at hinner
      obtain ⟨hitems, hpending⟩ := ClassPlace.passes_content hinner
      refine ⟨hitems, hpending, ?_⟩
      rw [houter, List.dropLast_cons_cons, List.forall_mem_cons]
      exact ⟨⟨houterItems, ih.pending⟩, ih.outer⟩
  | finish _ houter hclosed =>
      rw [hclosed, Tree.passes] at htree
      obtain ⟨hitems, hpending⟩ := ClassPlace.passes_content htree
      exact ⟨hitems, hpending, by simp [houter]⟩
  | operator _ _ _ ih =>
      obtain ⟨hitems, hpending⟩ := ClassPlace.passes_content (ih.pending _ _ rfl)
      exact ⟨hitems, hpending, ih.outer⟩
  | item _ _ _ ih => exact ⟨(List.forall_mem_cons.1 ih.items).2, ih.pending, ih.outer⟩

/-! ## Known properties -/

def UnitTest.knownProperty : UnitTest where
  change _ := true
  atom
    | .property query _ => query.members?.isSome
    | _ => true
  item
    | .property query _ => query.members?.isSome
    | _ => true

theorem isSome_of_propertySet {modes : Modes} {query : PropertyQuery} {negated : Bool}
    {set : CodeSet} (h : propertySet modes query negated = .ok set) :
    query.members?.isSome = true := by
  unfold propertySet at h
  split at h
  · cases h
  · split at h
    · cases h
    · next hmembers => simp [hmembers]

namespace ClassTree

mutual
theorem passes_knownProperty {modes : Modes} {set : CodeSet} (tree : ClassTree)
    (h : tree.members modes = .ok set) : tree.passes .knownProperty = true := by
  cases tree with
  | property query negated => exact isSome_of_propertySet h
  | bracketed negated inner =>
      simp only [members] at h
      split at h
      · cases h
      · next hinner => exact passes_knownProperty inner hinner
  | union items =>
      rw [members] at h
      exact allPass_knownProperty items h
  | operation op left right =>
      simp only [members] at h
      split at h
      · next hleft hright =>
          rw [passes, passes_knownProperty left hleft, passes_knownProperty right hright]
          rfl
      · cases h
      · cases h
  | _ => rfl

theorem allPass_knownProperty {modes : Modes} {found set : CodeSet} (items : List ClassTree)
    (h : membersOfAll modes found items = .ok set) : allPass .knownProperty items = true := by
  cases items with
  | nil => rfl
  | cons item rest =>
      simp only [membersOfAll] at h
      split at h
      · cases h
      · next hitem =>
          rw [allPass, passes_knownProperty item hitem, allPass_knownProperty rest h]
          rfl
end

end ClassTree

namespace Tree

mutual
/-- Flags can only be applied where every property is known. -/
theorem passes_knownProperty {modes modes' : Modes} {e : Expr} (tree : Tree)
    (h : tree.resolve modes = .ok (e, modes')) : tree.passes .knownProperty = true := by
  cases tree with
  | one atom =>
      rw [resolve] at h
      obtain ⟨_, hatom, -⟩ := except_map_eq_ok h
      cases atom with
      | property query negated =>
          obtain ⟨_, hset, -⟩ := except_map_eq_ok hatom
          exact isSome_of_propertySet hset
      | _ => rfl
  | bracketed negated inner =>
      simp only [resolve] at h
      split at h
      · cases h
      · next hinner => exact ClassTree.passes_knownProperty inner hinner
  | repeated counts greedy operand =>
      simp only [resolve] at h
      split at h
      · cases h
      · next hoperand => exact passes_knownProperty operand hoperand
  | group kind content =>
      simp only [resolve] at h
      split at h
      · cases h
      · next hcontent =>
          rw [passes, passes_knownProperty content hcontent]
          cases kind <;> rfl
  | choice branches =>
      simp only [resolve] at h
      split at h
      · cases h
      · next hbranches => exact allPass_knownProperty branches hbranches
  | sequence items =>
      simp only [resolve] at h
      split at h
      · cases h
      · next hitems => exact allPass_knownProperty items hitems
  | _ => rfl

theorem allPass_knownProperty {modes modes' : Modes} {done es : List Expr} (trees : List Tree)
    (h : resolveAll modes done trees = .ok (es, modes')) : allPass .knownProperty trees = true := by
  cases trees with
  | nil => rfl
  | cons tree rest =>
      simp only [resolveAll] at h
      split at h
      · cases h
      · next htree =>
          rw [allPass, passes_knownProperty tree htree, allPass_knownProperty rest h]
          rfl
end

end Tree

end LogPattern.Regex
