import LogPattern.Proofs.Regex.Mirror
import LogPattern.Regex.Flags

/-!
# Renaming groups

Applying flags does not look at the numbers of groups, so groups can be renumbered or
made plain before or after.  What a repetition drops does not depend on them either.
-/

namespace LogPattern.Regex

namespace Expr

mutual
/-- The expression with every capturing group renumbered, or kept as its content. -/
def mapCaptures (g : Nat → Option Nat) : Expr → Expr
  | empty => empty
  | chars set => chars set
  | look condition => look condition
  | capture index content =>
      match g index with
      | some index => capture index (content.mapCaptures g)
      | none => content.mapCaptures g
  | repeated least most greedy operand => repeated least most greedy (operand.mapCaptures g)
  | choice branches => choice (mapCapturesOfAll g branches)
  | sequence items => sequence (mapCapturesOfAll g items)

def mapCapturesOfAll (g : Nat → Option Nat) : List Expr → List Expr
  | [] => []
  | e :: rest => e.mapCaptures g :: mapCapturesOfAll g rest
end

variable {g : Nat → Option Nat}

theorem mapCapturesOfAll_eq_map (es : List Expr) :
    mapCapturesOfAll g es = es.map (mapCaptures g) := by
  induction es with
  | nil => simp [mapCapturesOfAll]
  | cons e rest ih => simp [mapCapturesOfAll, ih]

mutual
@[simp] theorem takesNothing_mapCaptures (e : Expr) :
    (e.mapCaptures g).takesNothing = e.takesNothing := by
  cases e with
  | capture index content =>
      rw [mapCaptures]
      split <;> simp [takesNothing, takesNothing_mapCaptures content]
  | repeated least most greedy operand =>
      simp [mapCaptures, takesNothing, takesNothing_mapCaptures operand]
  | choice branches => simp [mapCaptures, takesNothing, allTakeNothing_mapCaptures branches]
  | sequence items => simp [mapCaptures, takesNothing, allTakeNothing_mapCaptures items]
  | _ => simp [mapCaptures, takesNothing]

theorem allTakeNothing_mapCaptures (es : List Expr) :
    allTakeNothing (mapCapturesOfAll g es) = allTakeNothing es := by
  cases es with
  | nil => simp [mapCapturesOfAll]
  | cons e rest =>
      simp [mapCapturesOfAll, allTakeNothing, takesNothing_mapCaptures e,
        allTakeNothing_mapCaptures rest]
end

theorem times_mapCaptures (least : Nat) (most : Option Nat) (greedy : Bool) (operand : Expr) :
    times least most greedy (operand.mapCaptures g) =
      (times least most greedy operand).mapCaptures g := by
  unfold times
  rw [takesNothing_mapCaptures]
  generalize (if operand.takesNothing then _ else _ : Nat × Option Nat) = counts
  obtain ⟨least, most⟩ := counts
  dsimp only
  split
  · simp [mapCaptures]
  · rfl
  · simp [mapCaptures]

end Expr

/-- Renaming groups of a tree comes to renaming captures of the expression. -/
structure Renames (f : GroupKind → GroupKind) (g : Nat → Option Nat) : Prop where
  inside : ∀ kind modes, (f kind).inside modes = kind.inside modes
  wrap : ∀ kind e, (f kind).wrap (e.mapCaptures g) = (kind.wrap e).mapCaptures g

namespace Tree

variable {f : GroupKind → GroupKind} {g : Nat → Option Nat}

theorem mapCaptures_of_atom {atom : Atom} {modes : Modes} {e : Expr}
    (h : atom.resolve modes = .ok e) : e.mapCaptures g = e := by
  cases atom with
  | assertion kind =>
      cases h
      simp [Expr.mapCaptures]
  | _ =>
      obtain ⟨set, -, rfl⟩ := except_map_eq_ok h
      simp [Expr.mapCaptures]

mutual
theorem resolve_mapGroups (h : Renames f g) (modes : Modes) (tree : Tree) :
    (tree.mapGroups f).resolve modes =
      (tree.resolve modes).map fun result => (result.1.mapCaptures g, result.2) := by
  cases tree with
  | empty => simp [mapGroups, resolve, Except.map, Expr.mapCaptures]
  | flags change => simp [mapGroups, resolve, Except.map, Expr.mapCaptures]
  | one atom =>
      rw [mapGroups, resolve]
      cases hatom : atom.resolve modes with
      | error fault => rfl
      | ok e => simp [Except.map, mapCaptures_of_atom hatom]
  | bracketed negated inner =>
      rw [mapGroups, resolve]
      cases inner.members modes with
      | error fault => rfl
      | ok set =>
          dsimp only
          cases modes.foldAndNegate negated set with
          | error fault => rfl
          | ok set => simp [Except.map, Expr.mapCaptures]
  | repeated counts greedy operand =>
      rw [mapGroups, resolve, resolve, resolve_mapGroups h modes operand]
      cases operand.resolve modes with
      | error fault => rfl
      | ok result => simp [Except.map, Expr.times_mapCaptures]
  | group kind content =>
      rw [mapGroups, resolve, resolve, h.inside, resolve_mapGroups h (kind.inside modes) content]
      cases content.resolve (kind.inside modes) with
      | error fault => rfl
      | ok result => simp [Except.map, h.wrap]
  | choice branches =>
      rw [mapGroups, resolve, resolve]
      have hall := resolveAll_mapGroups h modes [] branches
      rw [List.map_nil] at hall
      rw [hall]
      cases resolveAll modes [] branches with
      | error fault => rfl
      | ok result => simp [Except.map, Expr.mapCaptures, Expr.mapCapturesOfAll_eq_map]
  | sequence items =>
      rw [mapGroups, resolve, resolve]
      have hall := resolveAll_mapGroups h modes [] items
      rw [List.map_nil] at hall
      rw [hall]
      cases resolveAll modes [] items with
      | error fault => rfl
      | ok result => simp [Except.map, Expr.mapCaptures, Expr.mapCapturesOfAll_eq_map]

theorem resolveAll_mapGroups (h : Renames f g) (modes : Modes) (done : List Expr)
    (trees : List Tree) :
    resolveAll modes (done.map (Expr.mapCaptures g)) (mapGroupsOfAll f trees) =
      (resolveAll modes done trees).map fun result =>
        (result.1.map (Expr.mapCaptures g), result.2) := by
  cases trees with
  | nil => simp [mapGroupsOfAll, resolveAll, Except.map]
  | cons tree rest =>
      rw [mapGroupsOfAll, resolveAll, resolveAll, resolve_mapGroups h modes tree]
      cases tree.resolve modes with
      | error fault => rfl
      | ok result => exact resolveAll_mapGroups h result.2 (result.1 :: done) rest
end

end Tree

/-! ## Renumbering -/

namespace Expr

mutual
/-- Numbers that are all raised by `count` have their greatest raised by it, too. -/
theorem lastCapture_mapCaptures_add (count most : Nat) (e : Expr) :
    (e.mapCaptures fun index => some (index + count)).lastCapture (most + count) =
      e.lastCapture most + count := by
  cases e with
  | capture index content =>
      rw [mapCaptures, lastCapture, lastCapture]
      have hmax : max (most + count) (index + count) = max most index + count := by omega
      rw [hmax]
      exact lastCapture_mapCaptures_add count (max most index) content
  | repeated least upTo greedy operand =>
      rw [mapCaptures, lastCapture, lastCapture]
      exact lastCapture_mapCaptures_add count most operand
  | choice branches =>
      rw [mapCaptures, lastCapture, lastCapture]
      exact lastCaptureOfAll_mapCaptures_add count most branches
  | sequence items =>
      rw [mapCaptures, lastCapture, lastCapture]
      exact lastCaptureOfAll_mapCaptures_add count most items
  | _ => simp [mapCaptures, lastCapture]

theorem lastCaptureOfAll_mapCaptures_add (count most : Nat) (es : List Expr) :
    lastCaptureOfAll (most + count) (mapCapturesOfAll (fun index => some (index + count)) es) =
      lastCaptureOfAll most es + count := by
  cases es with
  | nil => simp [mapCapturesOfAll, lastCaptureOfAll]
  | cons e rest =>
      rw [mapCapturesOfAll, lastCaptureOfAll, lastCaptureOfAll, lastCapture_mapCaptures_add]
      exact lastCaptureOfAll_mapCaptures_add count _ rest
end

end Expr

end LogPattern.Regex
