import LogPattern.Proofs.Pattern.Composition
import LogPattern.Proofs.Regex.Renaming

/-!
# Counting the groups of a composition

Flags that are switched inside a token's group end with it, so every item of a
composition is resolved as it is alone.  The expression counts as many groups as there
are fields, and then nothing but its size can be refused.
-/

namespace LogPattern

open Regex

namespace Regex

theorem renames_renumber (count : Nat) :
    Renames (GroupKind.renumber count) fun index => some (index + count) where
  inside kind modes := by cases kind <;> rfl
  wrap kind e := by cases kind <;> simp [GroupKind.renumber, GroupKind.wrap, Expr.mapCaptures]

theorem Tree.resolve_ofItems {modes after : Modes} {items : List Tree} {es : List Expr}
    (h : resolveAll modes [] items = .ok (es, after)) :
    ∃ e, (ofItems items).resolve modes = .ok (e, after) ∧
      ∀ most, e.lastCapture most = Expr.lastCaptureOfAll most es := by
  match items with
  | [] =>
      cases h
      exact ⟨.empty, by simp [ofItems, resolve], fun most => by
        simp [Expr.lastCapture, Expr.lastCaptureOfAll]⟩
  | [item] =>
      rw [resolveAll] at h
      split at h
      · cases h
      · next e modes' hitem =>
          cases h
          exact ⟨e, hitem, fun most => by simp [Expr.lastCaptureOfAll]⟩
  | first :: second :: rest =>
      refine ⟨.sequence es, ?_, fun most => by rw [Expr.lastCapture]⟩
      change (Tree.sequence (first :: second :: rest)).resolve modes = _
      rw [resolve, h]

theorem Tree.resolveAll_flat {modes : Modes} {front : List Tree}
    (h : ∀ tree ∈ front, ∃ e, tree.resolve modes = .ok (e, modes) ∧
      ∀ most, e.lastCapture most = most) (back : List Tree) (done : List Expr) :
    ∃ es, resolveAll modes done (front ++ back) = resolveAll modes (es.reverse ++ done) back ∧
      ∀ most, Expr.lastCaptureOfAll most es = most := by
  induction front generalizing done with
  | nil => exact ⟨[], rfl, fun most => by rw [Expr.lastCaptureOfAll]⟩
  | cons tree front ih =>
      obtain ⟨e, he, hsame⟩ := h tree List.mem_cons_self
      obtain ⟨es, hes, hrest⟩ := ih (fun tree htree => h tree (List.mem_cons_of_mem _ htree))
        (e :: done)
      refine ⟨e :: es, ?_, fun most => ?_⟩
      · rw [List.cons_append, resolveAll, he]
        simpa using hes
      · rw [Expr.lastCaptureOfAll, hsame, hrest]

theorem Expr.lastCaptureOfAll_append (most : Nat) (front back : List Expr) :
    lastCaptureOfAll most (front ++ back) = lastCaptureOfAll (lastCaptureOfAll most front) back := by
  induction front generalizing most with
  | nil => simp [lastCaptureOfAll]
  | cons e front ih => simp [lastCaptureOfAll, ih]

theorem charSet_initial (c : Char) : ∃ set, charSet .initial c false = .ok set := by
  unfold charSet
  simp only [Modes.initial, Bool.false_eq_true, Bool.not_true, Bool.false_and, if_false]
  exact ⟨_, rfl⟩

end Regex

theorem AnchoredLiteral.resolve_atom {literal : AnchoredLiteral} {atom : Atom}
    (hatom : atom ∈ literal.atoms) :
    ∃ e, (Tree.one atom).resolve .initial = .ok (e, .initial) ∧ ∀ most, e.lastCapture most = most := by
  have hchar (c : Char) : ∃ e, (Tree.one (.char c false)).resolve .initial = .ok (e, .initial) ∧
      ∀ most, e.lastCapture most = most := by
    obtain ⟨set, hset⟩ := charSet_initial c
    refine ⟨.chars set, ?_, fun most => by rw [Expr.lastCapture]⟩
    rw [Tree.resolve, Atom.resolve, hset]
    rfl
  have hassertion (kind : Assertion) : ∃ e, (Tree.one (.assertion kind)).resolve .initial =
      .ok (e, .initial) ∧ ∀ most, e.lastCapture most = most := by
    refine ⟨.look (kind.look .initial), ?_, fun most => by rw [Expr.lastCapture]⟩
    rw [Tree.resolve]
    rfl
  rw [atoms, List.mem_append, List.mem_append, List.mem_map] at hatom
  obtain (hstart | ⟨c, -, rfl⟩) | hend := hatom
  · split at hstart
    · obtain rfl := List.mem_singleton.1 hstart
      exact hassertion _
    · cases hstart
  · exact hchar c
  · split at hend
    · cases hend
    · obtain rfl := List.mem_singleton.1 hend
      exact hassertion _
    · obtain rfl := List.mem_singleton.1 hend
      exact hchar _

/-- Contained content whose expression keeps all its groups. -/
structure Countable (lookup : Lookup) (depth : Nat) (name : String) (final : Progress) : Prop
    extends Contained lookup depth name final where
  resolved : ∃ e modes, final.content.tree.resolve .initial = .ok (e, modes) ∧
    e.lastCapture 0 = final.captures

section Counting

variable {lookup : Lookup} {depth : Nat} {final : Progress}

theorem Token.lastCapture_wrap (token : Token) (index count : Nat) (content : Expr) :
    ((token.groupKind index count).wrap content).lastCapture count =
      content.lastCapture (count + token.fieldEntry.length) := by
  unfold Token.groupKind Token.fieldEntry
  cases token.field with
  | none => rfl
  | some name =>
      simp only [GroupKind.wrap, Expr.lastCapture]
      rw [Nat.max_eq_right (Nat.le_succ _)]
      rfl

/-- The expression of a token's item counts the fields of the token. -/
theorem Countable.resolve_token {token : Token} (h : Countable lookup depth token.name final)
    (count : Nat) :
    ∃ e, (Tree.group (token.groupKind count count) (final.content.tree.mapGroups
        (GroupKind.renumber (count + token.fieldEntry.length)))).resolve .initial =
          .ok (e, .initial) ∧
      e.lastCapture count = count + Expansion.fieldCount lookup (depth + 1) token := by
  obtain ⟨e, modes, hresolve, hcaptures⟩ := h.resolved
  have hfields := h.fieldCount_eq
  have hinside : (token.groupKind count count).inside .initial = .initial := by
    unfold Token.groupKind
    cases token.field <;> rfl
  let content := e.mapCaptures fun index => some (index + (count + token.fieldEntry.length))
  refine ⟨(token.groupKind count count).wrap content, ?_, ?_⟩
  · rw [Tree.resolve, hinside, Tree.resolve_mapGroups (renames_renumber _), hresolve]
    rfl
  · have hcontent := Expr.lastCapture_mapCaptures_add (count + token.fieldEntry.length) 0 e
    rw [Nat.zero_add] at hcontent
    rw [token.lastCapture_wrap, hcontent]
    omega

/-- The expressions of a composition count the fields of the text. -/
theorem Composes.resolve {first : Bool} {index count : Nat} {parts : List Segment}
    {items : List Tree}
    (h : Composes lookup (depth + 1) (IsRenumbered lookup depth) first index count parts items)
    (hparts : ∀ token, .token token ∈ parts → ∃ final, Countable lookup depth token.name final)
    (hcount : index = count) (done : List Expr) :
    ∃ es, Tree.resolveAll .initial done items = .ok (done.reverse ++ es, .initial) ∧
      Expr.lastCaptureOfAll count es =
        count + (Piece.fieldsOf (Expansion.segmentPieces lookup (depth + 1) first parts)).length := by
  induction h generalizing done with
  | nil =>
      exact ⟨[], by simp [Tree.resolveAll], by
        simp [Expr.lastCaptureOfAll, Expansion.segmentPieces]⟩
  | @literal first index count text rest literal items hliteral hrest ih =>
      obtain ⟨es, hes, hsame⟩ := Tree.resolveAll_flat
        (List.forall_mem_map.2 fun atom hatom => literal.resolve_atom hatom) items done
      obtain ⟨es', hes', hcaptures⟩ := ih
        (fun token htoken => hparts token (List.mem_cons_of_mem _ htoken)) hcount
        (es.reverse ++ done)
      refine ⟨es ++ es', ?_, ?_⟩
      · rw [hes, hes']
        simp
      · rw [Expr.lastCaptureOfAll_append, hsame, hcaptures]
        simp [Expansion.segmentPieces, Piece.fields]
  | @token first index count token rest inner items hinner hrest ih =>
      obtain rfl := hcount
      obtain ⟨final, hfinal⟩ := hparts token List.mem_cons_self
      obtain ⟨alone, halone, rfl⟩ := hinner
      obtain rfl := Except.ok.inj (hfinal.ofText_alone.symm.trans halone)
      rw [Tree.mapGroups_mapGroups, GroupKind.renumber_comp_renumber_zero] at ih ⊢
      rw [hfinal.length_captures] at ih
      obtain ⟨e, he, hlast⟩ := hfinal.resolve_token index
      obtain ⟨es, hes, hcaptures⟩ := ih
        (fun token htoken => hparts token (List.mem_cons_of_mem _ htoken)) rfl (e :: done)
      refine ⟨e :: es, ?_, ?_⟩
      · rw [Tree.resolveAll, he]
        simp [hes]
      · rw [Expr.lastCaptureOfAll, hlast, hcaptures, Expansion.segmentPieces, Piece.fieldsOf_append,
          List.length_append, Nat.add_assoc]
        rfl

end Counting

/-- A composition compiles unless its program is too large. -/
theorem CompiledPattern.compile_error_of_countable {lookup : Lookup} {depth : Nat} {text : String}
    {expansion : Expansion} {e : CompileError}
    (hparts : ∀ token, .token token ∈ segments text →
      ∃ final, Countable lookup depth token.name final)
    (hexpansion : Expansion.ofText lookup (depth + 1) text = .ok expansion)
    (h : compile lookup (depth + 1) text = .error e) :
    e = .invalidRegex (.refused .programTooLarge) := by
  obtain ⟨htext, hfields⟩ := Expansion.ofText_writes hexpansion
  obtain ⟨items, htree, hcomposes⟩ := ofText_segments true fun token htoken =>
    (hparts token htoken).imp fun _ hfinal => hfinal.toContained
  obtain ⟨es, hes, hcount⟩ := hcomposes.resolve hparts rfl []
  obtain ⟨whole, hwhole, hlast⟩ := Tree.resolve_ofItems hes
  have hsame : whole.captureCount = expansion.fields.toList.length := by
    rw [hfields, Expr.captureCount, hlast, List.reverse_nil, List.nil_append, hcount, Nat.zero_add]
    rfl
  have hread : Tree.ofText? expansion.text.toList = .ok (Tree.ofItems items) := htext ▸ htree
  have hexpr : (Tree.ofItems items).expr = .ok whole := by
    rw [Tree.expr, hwhole]
    rfl
  rw [compile, hexpansion] at h
  simp only [Regex.ofText?, hread, hexpr] at h
  split at h
  · next hrefused =>
      split at hrefused <;> cases hrefused
      cases h
      rfl
  · next hregex =>
      split at hregex <;> cases hregex
      rw [if_pos hsame] at h
      cases h

end LogPattern
