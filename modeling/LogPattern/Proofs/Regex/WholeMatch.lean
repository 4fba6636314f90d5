import LogPattern.Proofs.Regex.Renaming
import LogPattern.Proofs.Regex.Unmarked
import Mathlib.Data.List.Forall2

/-!
# The whole match alone

Where an expression is found does not depend on its groups.  Without them its program is
the same but for marks, its automata are no larger, and every search answers the span of
the whole match that it answered before.
-/

namespace LogPattern.Regex

/-! ## Emitting without groups -/

namespace Program

def innerSteps (program : Program) : List Bool := program.toList.map (·.isInner)

variable {code code₁ code₂ code' code₁' : Program} {step : Step} {i i' n : Nat}

theorem length_innerSteps (program : Program) : program.innerSteps.length = program.size := by
  simp [innerSteps]

theorem place_eq_count (program : Program) (i : Nat) :
    program.place i = (program.innerSteps.take i).count false := by
  rw [place, innerSteps, ← List.map_take, List.count_eq_countP, List.countP_map]
  congr 1
  funext step
  cases hinner : step.isInner <;> simp [hinner]

theorem innerSteps_push (program : Program) (step : Step) :
    innerSteps (program.push step) = program.innerSteps ++ [step.isInner] := by
  simp [innerSteps]

def Keeps (code code₁ : Program) : Prop := code.innerSteps <+: code₁.innerSteps

namespace Keeps

theorem refl (code : Program) : code.Keeps code := List.prefix_refl _

theorem of_eq (h : code₁.innerSteps = code.innerSteps) : code.Keeps code₁ :=
  ⟨[], by rw [List.append_nil, h]⟩

theorem trans (h : code.Keeps code₁) (h' : code₁.Keeps code₂) : code.Keeps code₂ :=
  List.IsPrefix.trans h h'

theorem push (code : Program) (step : Step) : code.Keeps (code.push step) := by
  rw [Keeps, innerSteps_push]
  exact List.prefix_append _ _

theorem place (h : code.Keeps code₁) (hi : i ≤ code.size) : code₁.place i = code.place i := by
  obtain ⟨more, hmore⟩ := h
  rw [place_eq_count, place_eq_count, ← hmore, List.take_append_of_le_length]
  rwa [length_innerSteps]

theorem size_le (h : code.Keeps code₁) : code.size ≤ code₁.size := by
  rw [← length_innerSteps, ← length_innerSteps]
  exact h.length_le

end Keeps

end Program

namespace Step

def LeadsUpTo (n : Nat) : Step → Prop
  | .split first second => first ≤ n ∧ second ≤ n
  | .jump target => target ≤ n
  | _ => True

theorem LeadsUpTo.mono {n m : Nat} {step : Step} (h : step.LeadsUpTo n) (hle : n ≤ m) :
    step.LeadsUpTo m := by
  cases step with
  | split first second => exact ⟨h.1.trans hle, h.2.trans hle⟩
  | jump target => exact Nat.le_trans h hle
  | _ => trivial

theorem retarget_congr {n : Nat} {move move' : Nat → Nat} {step : Step} (h : step.LeadsUpTo n)
    (hmove : ∀ i, i ≤ n → move i = move' i) : step.retarget move = step.retarget move' := by
  cases step with
  | split first second => rw [retarget, retarget, hmove _ h.1, hmove _ h.2]
  | jump target => rw [retarget, retarget, hmove _ h]
  | _ => rfl

end Step

namespace Program

variable {code code₁ code₂ code' code₁' : Program} {step : Step} {i i' n : Nat}

/--
The second code is the first without its inner marks, while both are being emitted: all
targets are known, the end included.
-/
structure Emits (code code' : Program) : Prop where
  unmarks : code.Unmarks code'
  leads : ∀ (i : Nat) (step : Step), code[i]? = some step → step.LeadsUpTo code.size

namespace Emits

theorem kept (h : Emits code code') (hkeeps : code.Keeps code₁) {other : Step}
    (hi : code[i]? = some other) (hother : other.isInner = false) :
    code'[code₁.place i]? = some (other.retarget code₁.place) := by
  have hlt := (Array.getElem?_eq_some_iff.1 hi).1
  rw [hkeeps.place hlt.le, h.unmarks.kept i other hi hother]
  exact congrArg some
    (Step.retarget_congr (h.leads i other hi) fun i hi => (hkeeps.place hi).symm)

theorem leads_push (h : Emits code code') (hleads : step.LeadsUpTo code.size) (i : Nat)
    (other : Step) (hi : (code.push step)[i]? = some other) :
    other.LeadsUpTo (code.push step).size := by
  rw [Array.getElem?_push] at hi
  rw [Array.size_push]
  split at hi
  · cases hi
    exact hleads.mono (Nat.le_succ _)
  · exact (h.leads i other hi).mono (Nat.le_succ _)

theorem push (h : Emits code code') (hkept : step.isInner = false)
    (hleads : step.LeadsUpTo code.size) :
    Emits (code.push step) (code'.push (step.retarget code.place)) := by
  have hkeeps := Keeps.push code step
  have hend : place (code.push step) code.size = code'.size := by
    rw [hkeeps.place (Nat.le_refl _), h.unmarks.size]
  refine ⟨⟨?_, fun i other hi hother => ?_⟩, h.leads_push hleads⟩
  · rw [Array.size_push, Array.size_push, place_succ_of_kept Array.getElem?_push_size hkept, hend]
  · rw [Array.getElem?_push] at hi
    split at hi
    · next heq =>
        cases hi
        rw [heq, hend, Array.getElem?_push_size]
        exact congrArg some (Step.retarget_congr hleads fun i hi => (hkeeps.place hi).symm)
    · have hkept' := h.kept hkeeps hi hother
      rw [Array.getElem?_push_lt (Array.getElem?_eq_some_iff.1 hkept').1,
        ← Array.getElem?_eq_getElem, hkept']

theorem push_inner (h : Emits code code') (hinner : step.isInner = true)
    (hleads : step.LeadsUpTo code.size) : Emits (code.push step) code' := by
  have hkeeps := Keeps.push code step
  refine ⟨⟨?_, fun i other hi hother => ?_⟩, h.leads_push hleads⟩
  · rw [Array.size_push, place_succ Array.getElem?_push_size, if_pos hinner, Nat.add_zero,
      hkeeps.place (Nat.le_refl _), h.unmarks.size]
  · rw [Array.getElem?_push] at hi
    split at hi
    · cases hi
      rw [hinner] at hother
      cases hother
    · exact h.kept hkeeps hi hother

end Emits

structure Spot (code : Program) (i i' : Nat) : Prop where
  le : i ≤ code.size
  place : code.place i = i'

structure Reserved (code : Program) (i i' : Nat) : Prop where
  place : code.place i = i'
  kept : code.innerSteps[i]? = some false

theorem Spot.keep (h : code.Spot i i') (hkeeps : code.Keeps code₁) : code₁.Spot i i' :=
  ⟨h.le.trans hkeeps.size_le, (hkeeps.place h.le).trans h.place⟩

theorem Emits.spot (h : code.Emits code') : code.Spot code.size code'.size :=
  ⟨Nat.le_refl _, h.unmarks.size.symm⟩

namespace Reserved

theorem lt (h : code.Reserved i i') : i < code.size := by
  have hlt := (List.getElem?_eq_some_iff.1 h.kept).1
  rwa [length_innerSteps] at hlt

theorem keep (h : code.Reserved i i') (hkeeps : code.Keeps code₁) : code₁.Reserved i i' where
  place := (hkeeps.place h.lt.le).trans h.place
  kept := by
    obtain ⟨more, hmore⟩ := hkeeps
    rw [← hmore, List.getElem?_append_left (by rw [length_innerSteps]; exact h.lt)]
    exact h.kept

theorem exists_step (h : code.Reserved i i') :
    ∃ step, code[i]? = some step ∧ step.isInner = false := by
  have hkept := h.kept
  rw [innerSteps, List.getElem?_map, Array.getElem?_toList, Option.map_eq_some_iff] at hkept
  exact hkept

theorem spot (h : code.Reserved i i') : code.Spot i i' := ⟨h.lt.le, h.place⟩

theorem behind (h : code.Reserved i i') : code.Spot (i + 1) (i' + 1) := by
  obtain ⟨step, hstep, hkept⟩ := h.exists_step
  exact ⟨h.lt, by rw [place_succ_of_kept hstep hkept, h.place]⟩

end Reserved

theorem innerSteps_set (h : code.Reserved i i') (hkept : step.isInner = false) :
    innerSteps (code.setIfInBounds i step) = code.innerSteps := by
  obtain ⟨hlt, hget⟩ := List.getElem?_eq_some_iff.1 h.kept
  rw [innerSteps, Array.toList_setIfInBounds, List.map_set, hkept, ← hget]
  exact List.set_getElem_self hlt

structure Grows (code code₁ code₁' : Program) : Prop where
  emits : code₁.Emits code₁'
  keeps : code.Keeps code₁

namespace Grows

theorem refl (h : code.Emits code') : Grows code code code' := ⟨h, .refl code⟩

theorem trans {code₂' : Program} (h : Grows code code₁ code₁') (h' : Grows code₁ code₂ code₂') :
    Grows code code₂ code₂' :=
  ⟨h'.emits, h.keeps.trans h'.keeps⟩

theorem push (step : Step) (h : code.Emits code') (hkept : step.isInner = false)
    (hleads : step.LeadsUpTo code.size) :
    Grows code (code.push step) (code'.push (step.retarget code.place)) :=
  ⟨h.push hkept hleads, .push code step⟩

theorem pushInner (h : code.Emits code') {slot : Nat}
    (hinner : (Step.mark slot).isInner = true) : Grows code (code.push (.mark slot)) code' :=
  ⟨h.push_inner hinner trivial, .push code _⟩

theorem jump {target target' : Nat} (h : code.Emits code') (htarget : code.Spot target target') :
    Grows code (code.push (.jump target)) (code'.push (.jump target')) := by
  rw [← htarget.place]
  exact push (.jump target) h rfl htarget.le

theorem reserve (h : code.Emits code') :
    Grows code (Program.reserve code) (Program.reserve code') ∧
      (Program.reserve code).Reserved code.size code'.size := by
  refine ⟨⟨h.push rfl trivial, .push code _⟩, ?_, ?_⟩
  · rw [Program.reserve, (Keeps.push code _).place (Nat.le_refl _), h.unmarks.size]
  · rw [Program.reserve, innerSteps_push, ← length_innerSteps]
    exact List.getElem?_concat_length

theorem set (step : Step) (h : code.Emits code') (hreserved : code.Reserved i i')
    (hkept : step.isInner = false) (hleads : step.LeadsUpTo code.size) :
    Grows code (code.setIfInBounds i step) (code'.setIfInBounds i' (step.retarget code.place)) := by
  have hinner := innerSteps_set hreserved hkept
  have hplace (j : Nat) : place (code.setIfInBounds i step) j = code.place j := by
    rw [place_eq_count, place_eq_count, hinner]
  have hmoved : place (code.setIfInBounds i step) = code.place := funext hplace
  obtain ⟨old, hold, holdKept⟩ := hreserved.exists_step
  have hlt' := (Array.getElem?_eq_some_iff.1 (h.unmarks.kept i old hold holdKept)).1
  rw [hreserved.place] at hlt'
  refine ⟨⟨⟨?_, fun j other hj hother => ?_⟩, fun j other hj => ?_⟩, ?_⟩
  · rw [Array.size_setIfInBounds, Array.size_setIfInBounds, hplace, h.unmarks.size]
  · rw [hmoved]
    by_cases hij : i = j
    · subst hij
      rw [Array.getElem?_setIfInBounds_self_of_lt hreserved.lt] at hj
      cases hj
      rw [hreserved.place, Array.getElem?_setIfInBounds_self_of_lt hlt']
    · rw [Array.getElem?_setIfInBounds_ne hij] at hj
      have hne : i' ≠ code.place j := fun heq =>
        hij (place_inj hold hj holdKept hother (hreserved.place.trans heq))
      rw [Array.getElem?_setIfInBounds_ne hne]
      exact h.unmarks.kept j other hj hother
  · rw [Array.size_setIfInBounds]
    by_cases hij : i = j
    · subst hij
      rw [Array.getElem?_setIfInBounds_self_of_lt hreserved.lt] at hj
      cases hj
      exact hleads
    · rw [Array.getElem?_setIfInBounds_ne hij] at hj
      exact h.leads j other hj
  · exact .of_eq hinner

theorem setSplit {body body' exit exit' : Nat} (greedy : Bool) (h : code.Emits code')
    (hreserved : code.Reserved i i') (hbody : code.Spot body body') (hexit : code.Spot exit exit') :
    Grows code (Program.setSplit code i body exit greedy)
      (Program.setSplit code' i' body' exit' greedy) := by
  rw [← hbody.place, ← hexit.place]
  cases greedy with
  | true => exact set (.split body exit) h hreserved rfl ⟨hbody.le, hexit.le⟩
  | false => exact set (.split exit body) h hreserved rfl ⟨hexit.le, hbody.le⟩

theorem setJump {target target' : Nat} (h : code.Emits code') (hreserved : code.Reserved i i')
    (htarget : code.Spot target target') :
    Grows code (code.setIfInBounds i (.jump target)) (code'.setIfInBounds i' (.jump target')) := by
  rw [← htarget.place]
  exact set (.jump target) h hreserved rfl htarget.le

theorem foldl {set set' : Program → Nat → Program} {spots spots' : List Nat}
    (h : code.Emits code') (hspots : List.Forall₂ code.Reserved spots spots')
    (hset : ∀ code₁ code₁' i i', Grows code code₁ code₁' → code₁.Reserved i i' →
      Grows code₁ (set code₁ i) (set' code₁' i')) :
    Grows code (spots.foldl set code) (spots'.foldl set' code') := by
  suffices hfold : ∀ code₁ code₁', Grows code code₁ code₁' →
      Grows code (spots.foldl set code₁) (spots'.foldl set' code₁') from hfold _ _ (.refl h)
  induction hspots with
  | nil => exact fun _ _ hgrows => hgrows
  | @cons i i' spots spots' hspot _ ih =>
      intro code₁ code₁' hgrows
      exact ih _ _ (hgrows.trans (hset _ _ _ _ hgrows (hspot.keep hgrows.keeps)))

theorem repeated {emit emit' : Program → Program} (h : code.Emits code')
    (hemit : ∀ code code', code.Emits code' → Grows code (emit code) (emit' code')) (count : Nat) :
    Grows code (Nat.repeat emit count code) (Nat.repeat emit' count code') := by
  induction count with
  | zero => exact .refl h
  | succ count ih => exact ih.trans (hemit _ _ ih.emits)

end Grows

end Program

namespace Expr

open Program

def wholeOnly (index : Nat) : Option Nat := if index = 0 then some 0 else none

def ungrouped (e : Expr) : Expr := e.mapCaptures wholeOnly

variable {code code' : Program}

theorem grows_optional {emit emit' : Program → Program} (h : code.Emits code')
    (hemit : ∀ code code', code.Emits code' → Grows code (emit code) (emit' code')) (count : Nat) :
    let made := Nat.repeat (fun (code, splits) => (emit (reserve code), code.size :: splits)) count
      (code, ([] : List Nat))
    let made' := Nat.repeat (fun (code, splits) => (emit' (reserve code), code.size :: splits))
      count (code', ([] : List Nat))
    Grows code made.1 made'.1 ∧ List.Forall₂ made.1.Reserved made.2 made'.2 := by
  induction count with
  | zero => exact ⟨.refl h, .nil⟩
  | succ count ih =>
      obtain ⟨hgrows, hsplits⟩ := ih
      obtain ⟨hreserve, hspot⟩ := Grows.reserve hgrows.emits
      have hcopy := hreserve.trans (hemit _ _ hreserve.emits)
      exact ⟨hgrows.trans hcopy, .cons (hspot.keep (hemit _ _ hreserve.emits).keeps)
        (hsplits.imp fun _ _ hsplit => hsplit.keep hcopy.keeps)⟩

mutual
@[simp] theorem mayTakeNothing_mapCaptures {g : Nat → Option Nat} (e : Expr) :
    (e.mapCaptures g).mayTakeNothing = e.mayTakeNothing := by
  cases e with
  | capture index content =>
      rw [mapCaptures]
      split <;> simp [mayTakeNothing, mayTakeNothing_mapCaptures content]
  | repeated least most greedy operand =>
      simp [mapCaptures, mayTakeNothing, mayTakeNothing_mapCaptures operand]
  | choice branches => simp [mapCaptures, mayTakeNothing, anyMayTakeNothing_mapCaptures branches]
  | sequence items => simp [mapCaptures, mayTakeNothing, allMayTakeNothing_mapCaptures items]
  | _ => simp [mapCaptures, mayTakeNothing]

theorem anyMayTakeNothing_mapCaptures {g : Nat → Option Nat} (es : List Expr) :
    anyMayTakeNothing (mapCapturesOfAll g es) = anyMayTakeNothing es := by
  cases es with
  | nil => simp [mapCapturesOfAll]
  | cons e rest =>
      simp [mapCapturesOfAll, anyMayTakeNothing, mayTakeNothing_mapCaptures e,
        anyMayTakeNothing_mapCaptures rest]

theorem allMayTakeNothing_mapCaptures {g : Nat → Option Nat} (es : List Expr) :
    allMayTakeNothing (mapCapturesOfAll g es) = allMayTakeNothing es := by
  cases es with
  | nil => simp [mapCapturesOfAll]
  | cons e rest =>
      simp [mapCapturesOfAll, allMayTakeNothing, mayTakeNothing_mapCaptures e,
        allMayTakeNothing_mapCaptures rest]
end

theorem grows_repeated {operand operand' : Expr} (h : code.Emits code')
    (hsame : operand'.mayTakeNothing = operand.mayTakeNothing)
    (hoperand : ∀ code code', code.Emits code' →
      Grows code (operand.emit code) (operand'.emit code'))
    (least : Nat) (most : Option Nat) (greedy : Bool) :
    Grows code ((repeated least most greedy operand).emit code)
      ((repeated least most greedy operand').emit code') := by
  cases most with
  | some most =>
      rw [emit, emit]
      have hleast := Grows.repeated h hoperand least
      obtain ⟨hoptional, hsplits⟩ := grows_optional hleast.emits hoperand (most - least)
      refine hleast.trans (hoptional.trans (.foldl hoptional.emits hsplits ?_))
      intro code₁ code₁' i i' hgrows hsplit
      exact .setSplit greedy hgrows.emits hsplit hsplit.behind
        (hoptional.emits.spot.keep hgrows.keeps)
  | none =>
      cases least with
      | succ more =>
          rw [emit, emit]
          have hfirst := Grows.repeated h hoperand more
          have hlast := hoperand _ _ hfirst.emits
          obtain ⟨hreserve, hagain⟩ := Grows.reserve hlast.emits
          have hbehind := hlast.trans hreserve
          exact hfirst.trans (hbehind.trans (.setSplit greedy hreserve.emits hagain
            (hfirst.emits.spot.keep hbehind.keeps) hagain.behind))
      | zero =>
          rw [emit, emit, hsame]
          obtain ⟨hentry, hreserved⟩ := Grows.reserve h
          have hbody := hoperand _ _ hentry.emits
          split
          · obtain ⟨hlast, hagain⟩ := Grows.reserve hbody.emits
            have hbehind := hbody.trans hlast
            have hstart := hreserved.keep hbehind.keeps
            have hset := Grows.setSplit greedy hlast.emits hagain hstart.behind
              hagain.behind
            exact hentry.trans (hbehind.trans (hset.trans (.setSplit greedy hset.emits
              (hstart.keep hset.keeps) (hstart.behind.keep hset.keeps)
              (hagain.behind.keep hset.keeps))))
          · have hjump := Grows.jump hbody.emits (hreserved.spot.keep hbody.keeps)
            have hbehind := hbody.trans hjump
            have hstart := hreserved.keep hbehind.keeps
            exact hentry.trans (hbehind.trans (.setSplit greedy hjump.emits hstart hstart.behind
              hjump.emits.spot))

theorem emitChoice_cons {exits : List Nat} {branch : Expr} {rest : List Expr} (h : rest ≠ []) :
    emitChoice code exits (branch :: rest) =
      emitChoice
        (setSplit (reserve (branch.emit (reserve code))) code.size (code.size + 1)
          (reserve (branch.emit (reserve code))).size true)
        ((branch.emit (reserve code)).size :: exits) rest := by
  rw [emitChoice]
  exact h

mutual
/-- Without inner groups the same steps are emitted, but for their marks. -/
theorem grows_ungrouped {code code' : Program} (e : Expr) (h : code.Emits code') :
    Grows code (e.emit code) (e.ungrouped.emit code') := by
  cases e with
  | empty =>
      rw [ungrouped, mapCaptures, emit, emit]
      exact .refl h
  | chars set =>
      rw [ungrouped, mapCaptures, emit, emit]
      exact .push _ h rfl trivial
  | look condition =>
      rw [ungrouped, mapCaptures, emit, emit]
      exact .push _ h rfl trivial
  | capture index content =>
      rw [ungrouped, mapCaptures, emit]
      by_cases hindex : index = 0
      · subst hindex
        have hopen := Grows.push (.mark 0) h rfl trivial
        have hcontent := hopen.trans (grows_ungrouped content hopen.emits)
        exact hcontent.trans (.push (.mark 1) hcontent.emits rfl trivial)
      · have hinner (slot : Nat) (hslot : 1 < slot) : (Step.mark slot).isInner = true :=
          decide_eq_true hslot
        rw [wholeOnly, if_neg hindex]
        have hopen := Grows.pushInner h (hinner (2 * index) (by omega))
        have hcontent := hopen.trans (grows_ungrouped content hopen.emits)
        exact hcontent.trans (.pushInner hcontent.emits (hinner (2 * index + 1) (by omega)))
  | repeated least most greedy operand =>
      rw [ungrouped, mapCaptures]
      exact grows_repeated h (mayTakeNothing_mapCaptures operand)
        (fun _ _ h => grows_ungrouped operand h) least most greedy
  | choice branches =>
      rw [ungrouped, mapCaptures, emit, emit]
      exact grows_ungroupedChoice branches h .nil
  | sequence items =>
      rw [ungrouped, mapCaptures, emit, emit]
      exact grows_ungroupedAll items h

theorem grows_ungroupedAll {code code' : Program} (es : List Expr) (h : code.Emits code') :
    Grows code (emitAll code es) (emitAll code' (mapCapturesOfAll wholeOnly es)) := by
  cases es with
  | nil =>
      rw [mapCapturesOfAll, emitAll, emitAll]
      exact .refl h
  | cons e rest =>
      rw [mapCapturesOfAll, emitAll, emitAll]
      have hfirst := grows_ungrouped e h
      exact hfirst.trans (grows_ungroupedAll rest hfirst.emits)

theorem grows_ungroupedChoice {code code' : Program} {exits exits' : List Nat}
    (branches : List Expr)
    (h : code.Emits code') (hexits : List.Forall₂ code.Reserved exits exits') :
    Grows code (emitChoice code exits branches)
      (emitChoice code' exits' (mapCapturesOfAll wholeOnly branches)) := by
  match branches with
  | [] =>
      rw [mapCapturesOfAll, emitChoice, emitChoice]
      exact .refl h
  | [last] =>
      rw [mapCapturesOfAll, mapCapturesOfAll, emitChoice, emitChoice]
      have hlast := grows_ungrouped last h
      refine hlast.trans (.foldl hlast.emits (hexits.imp fun _ _ hexit => hexit.keep hlast.keeps) ?_)
      intro code₁ code₁' i i' hgrows hexit
      exact .setJump hgrows.emits hexit
        (hlast.emits.spot.keep hgrows.keeps)
  | branch :: second :: rest =>
      have hrest : mapCapturesOfAll wholeOnly (second :: rest) ≠ [] := by simp [mapCapturesOfAll]
      rw [mapCapturesOfAll, emitChoice_cons (List.cons_ne_nil second rest), emitChoice_cons hrest]
      obtain ⟨hentry, hreserved⟩ := Grows.reserve h
      have hbranch := grows_ungrouped branch hentry.emits
      obtain ⟨hexit, hleave⟩ := Grows.reserve hbranch.emits
      have hbehind := hbranch.trans hexit
      have hstart := hreserved.keep hbehind.keeps
      have hset := Grows.setSplit true hexit.emits hstart hstart.behind
        hexit.emits.spot
      have hdone := hentry.trans (hbehind.trans hset)
      refine hdone.trans (grows_ungroupedChoice (second :: rest) hdone.emits
        (.cons (hleave.keep hset.keeps) (hexits.imp fun _ _ hspot => hspot.keep hdone.keeps)))
end

theorem unmarks_program (e : Expr) : e.program.Unmarks e.ungrouped.program := by
  have hempty : Emits #[] #[] := ⟨⟨rfl, by simp⟩, by simp⟩
  have hwhole := grows_ungrouped (capture 0 e) hempty
  exact (Grows.push .accept hwhole.emits rfl trivial).emits.unmarks

end Expr

/-! ## The span of the whole match -/

/-- A slot holds the position of its latest mark. -/
theorem getElem?_slotsOf {slotCount slot : Nat} (marks : Marks) (hslot : slot < slotCount) :
    (slotsOf slotCount marks)[slot]? = some ((marks.find? (·.1 = slot)).map (·.2)) := by
  have hsize (marks : Marks) : (slotsOf slotCount marks).size = slotCount := by
    induction marks with
    | nil => simp [slotsOf]
    | cons mark marks ih => simpa [slotsOf] using ih
  induction marks with
  | nil => simp [slotsOf, hslot]
  | cons mark marks ih =>
      have hcons : slotsOf slotCount (mark :: marks) =
          (slotsOf slotCount marks).setIfInBounds mark.1 (some mark.2) := by simp [slotsOf]
      rw [hcons, List.find?_cons]
      by_cases hmark : mark.1 = slot
      · subst hmark
        rw [Array.getElem?_setIfInBounds_self_of_lt (by rw [hsize]; exact hslot)]
        simp
      · rw [Array.getElem?_setIfInBounds_ne hmark, ih]
        simp [hmark]

/-- The marks of the whole match are left. -/
theorem find?_outer (marks : Marks) {slot : Nat} (hslot : slot ≤ 1) :
    (Marks.outer marks).find? (·.1 = slot) = marks.find? (·.1 = slot) := by
  induction marks with
  | nil => rfl
  | cons mark marks ih =>
      rw [Marks.outer] at ih ⊢
      by_cases hmark : mark.1 = slot
      · simp [hmark, hslot]
      · by_cases houter : mark.1 ≤ 1
        · simpa [houter, hmark] using ih
        · simpa [houter, hmark] using ih

/-- Of the spans only that of the whole match does not depend on other groups. -/
theorem spansOf_outer (captureCount : Nat) (marks : Marks) :
    spansOf 0 (Marks.outer marks) = (spansOf captureCount marks).take 1 := by
  have hslot (slot : Nat) (h : slot ≤ 1) : (slotsOf 2 (Marks.outer marks))[slot]? =
      (slotsOf (2 * captureCount + 2) marks)[slot]? := by
    rw [getElem?_slotsOf _ (by omega), getElem?_slotsOf _ (by omega), find?_outer marks h]
  have hstart := hslot 0 (by omega)
  have hstop := hslot 1 (by omega)
  have hone : (List.range (captureCount + 1)).take 1 = List.range 1 := by
    rw [List.take_range, Nat.min_eq_left (by omega)]
  rw [spansOf, spansOf, ← List.map_take, hone]
  simp only [List.range_one, List.map_cons, List.map_nil, Nat.mul_zero, Nat.zero_add, hstart, hstop]

/-- A search without groups answers the span of the whole match alone. -/
theorem captures?_ungrouped (e : Expr) (captureCount : Nat) (text : List Char) :
    captures? ⟨e.ungrouped.program, 0⟩ text =
      (captures? ⟨e.program, captureCount⟩ text).map (·.take 1) := by
  rw [captures?, captures?, search_unmark e.unmarks_program, Option.map_map, Option.map_map]
  congr 1
  funext marks
  exact spansOf_outer captureCount marks

/-! ## The size without groups -/

namespace Inventory

structure Covers (inventory inventory' : Inventory) : Prop where
  common : inventory'.common = inventory.common
  sets : inventory'.sets = inventory.sets
  marks : inventory'.marks ≤ inventory.marks

variable {inventory inventory' : Inventory}

namespace Covers

theorem addStates (h : inventory.Covers inventory') (states edges : Nat) :
    (inventory.addStates states edges).Covers (inventory'.addStates states edges) :=
  ⟨by simp [Inventory.addStates, h.common], h.sets, h.marks⟩

theorem addSet (h : inventory.Covers inventory') (set : CodeSet) (copies : Nat) :
    (inventory.addSet set copies).Covers (inventory'.addSet set copies) := by
  unfold Inventory.addSet
  cases set.single? with
  | some code => exact h.addStates _ _
  | none => exact ⟨h.common, by simp [h.sets], h.marks⟩

theorem addMarks (h : inventory.Covers inventory') (marks : Nat) :
    Covers { inventory with marks := inventory.marks + marks } inventory' :=
  ⟨h.common, h.sets, Nat.le_add_right_of_le h.marks⟩

theorem addMarks_both (h : inventory.Covers inventory') (marks : Nat) :
    Covers { inventory with marks := inventory.marks + marks }
      { inventory' with marks := inventory'.marks + marks } :=
  ⟨h.common, h.sets, Nat.add_le_add_right h.marks _⟩

end Covers

theorem cost_foldl_le (footprint : CodeSet → Footprint) (sets : List (CodeSet × Nat))
    {a b : Footprint} (hstates : a.states ≤ b.states) (hedges : a.edges ≤ b.edges) :
    (sets.foldl (fun total (set, copies) => total.add ((footprint set).scale copies)) a).cost ≤
      (sets.foldl (fun total (set, copies) => total.add ((footprint set).scale copies)) b).cost := by
  induction sets generalizing a b with
  | nil =>
      simp only [List.foldl_nil, Footprint.cost]
      exact Nat.add_le_add (Nat.mul_le_mul_left _ hstates) hedges
  | cons entry rest ih =>
      exact ih (Nat.add_le_add_right hstates _) (Nat.add_le_add_right hedges _)

theorem Covers.fits (h : inventory.Covers inventory') (hfits : inventory.fits = true) :
    inventory'.fits = true := by
  have hforward : inventory'.forwardCost ≤ inventory.forwardCost := by
    unfold forwardCost
    rw [h.sets, h.common]
    refine cost_foldl_le forwardFootprint _ ?_ (Nat.le_refl _)
    exact Nat.add_le_add_left (Nat.add_le_add_right h.marks 6) _
  have hbackward : inventory'.backwardCost = inventory.backwardCost := by
    unfold backwardCost
    rw [h.sets, h.common]
  rw [Inventory.fits, Bool.and_eq_true, decide_eq_true_iff, decide_eq_true_iff] at hfits ⊢
  exact ⟨hforward.trans hfits.1, hbackward ▸ hfits.2⟩

end Inventory

namespace Expr

open Inventory

/-- A repetition counts its operand, and what it adds does not depend on groups. -/
theorem covers_repeated {operand operand' : Expr}
    (hsame : operand'.mayTakeNothing = operand.mayTakeNothing)
    (hoperand : ∀ copies inventory inventory', inventory.Covers inventory' →
      (operand.count copies inventory).Covers (operand'.count copies inventory'))
    (copies : Nat) {inventory inventory' : Inventory} (h : inventory.Covers inventory')
    (least : Nat) (most : Option Nat) (greedy : Bool) :
    ((repeated least most greedy operand).count copies inventory).Covers
      ((repeated least most greedy operand').count copies inventory') := by
  match least, most with
  | 0, none =>
      rw [count, count, hsame]
      exact hoperand _ _ _ (h.addStates _ _)
  | more + 1, none =>
      rw [count, count]
      · exact hoperand _ _ _ (h.addStates _ _)
      · simp
      · simp
  | 0, some 1 =>
      rw [count, count]
      exact hoperand _ _ _ (h.addStates _ _)
  | least, some most =>
      by_cases hone : least = 0 ∧ most = 1
      · obtain ⟨rfl, rfl⟩ := hone
        rw [count, count]
        exact hoperand _ _ _ (h.addStates _ _)
      · rw [count, count]
        · split
          · exact hoperand _ _ _ h
          · exact hoperand _ _ _ (h.addStates _ _)
        · exact fun hleast hmost => hone ⟨hleast, hmost⟩
        · exact fun hleast hmost => hone ⟨hleast, hmost⟩

mutual
theorem covers_ungrouped (e : Expr) (copies : Nat) {inventory inventory' : Inventory}
    (h : inventory.Covers inventory') :
    (e.count copies inventory).Covers (e.ungrouped.count copies inventory') := by
  cases e with
  | empty =>
      rw [ungrouped, mapCaptures, count, count]
      exact h.addStates _ _
  | chars set =>
      rw [ungrouped, mapCaptures, count, count]
      exact h.addSet _ _
  | look condition =>
      rw [ungrouped, mapCaptures, count, count]
      exact h.addStates _ _
  | capture index content =>
      rw [ungrouped, mapCaptures, count]
      by_cases hindex : index = 0
      · subst hindex
        exact covers_ungrouped content copies (h.addMarks_both _)
      · rw [wholeOnly, if_neg hindex]
        exact covers_ungrouped content copies (h.addMarks _)
  | repeated least most greedy operand =>
      rw [ungrouped, mapCaptures]
      exact covers_repeated (mayTakeNothing_mapCaptures operand)
        (fun copies _ _ h => covers_ungrouped operand copies h) copies h least most greedy
  | choice branches =>
      rw [ungrouped, mapCaptures, count, count, mapCapturesOfAll_eq_map, List.length_map,
        ← mapCapturesOfAll_eq_map]
      exact covers_ungroupedAll branches copies (h.addStates _ _)
  | sequence items =>
      rw [ungrouped, mapCaptures, count, count]
      exact covers_ungroupedAll items copies h

theorem covers_ungroupedAll (es : List Expr) (copies : Nat) {inventory inventory' : Inventory}
    (h : inventory.Covers inventory') :
    (countAll copies inventory es).Covers
      (countAll copies inventory' (mapCapturesOfAll wholeOnly es)) := by
  cases es with
  | nil =>
      rw [mapCapturesOfAll, countAll, countAll]
      exact h
  | cons e rest =>
      rw [mapCapturesOfAll, countAll, countAll]
      exact covers_ungroupedAll rest copies (covers_ungrouped e copies h)
end

theorem fits_ungrouped {e : Expr} (h : e.fits = true) : e.ungrouped.fits = true :=
  (covers_ungrouped e 1 ⟨rfl, rfl, Nat.le_refl _⟩).fits h

mutual
theorem lastCapture_ungrouped (e : Expr) : e.ungrouped.lastCapture 0 = 0 := by
  cases e with
  | capture index content =>
      rw [ungrouped, mapCaptures]
      by_cases hindex : index = 0
      · subst hindex
        exact lastCapture_ungrouped content
      · rw [wholeOnly, if_neg hindex]
        exact lastCapture_ungrouped content
  | repeated least most greedy operand =>
      rw [ungrouped, mapCaptures, lastCapture]
      exact lastCapture_ungrouped operand
  | choice branches =>
      rw [ungrouped, mapCaptures, lastCapture]
      exact lastCapture_ungroupedAll branches
  | sequence items =>
      rw [ungrouped, mapCaptures, lastCapture]
      exact lastCapture_ungroupedAll items
  | _ => rfl

theorem lastCapture_ungroupedAll (es : List Expr) :
    lastCaptureOfAll 0 (mapCapturesOfAll wholeOnly es) = 0 := by
  cases es with
  | nil => rfl
  | cons e rest =>
      have hfirst := lastCapture_ungrouped e
      rw [ungrouped] at hfirst
      rw [mapCapturesOfAll, lastCaptureOfAll, hfirst]
      exact lastCapture_ungroupedAll rest
end

end Expr

end LogPattern.Regex
