import LogPattern.Regex.Basic

/-!
# Programs without inner marks

The marks of groups inside the whole match do not steer a search.  So a program from
which they have been left out, with all other steps in order and targets moved to
their new places, finds the same match: its search takes the same rounds, but for those
that pass a mark.
-/

namespace LogPattern.Regex

/-! ## Leaving marks out -/

namespace Step

def isInner : Step → Bool
  | .mark slot => decide (1 < slot)
  | _ => false

def retarget (move : Nat → Nat) : Step → Step
  | .split first second => .split (move first) (move second)
  | .jump target => .jump (move target)
  | step => step

/-- The ways that go on from a step, in order of preference. -/
def goOn (place : Place) (position : Nat) (way : Way) : Step → List Way
  | .jump target => [⟨target, way.marks⟩]
  | .split first second => [⟨first, way.marks⟩, ⟨second, way.marks⟩]
  | .mark slot => [⟨way.step + 1, (slot, position) :: way.marks⟩]
  | .look condition => if condition.holds place then [⟨way.step + 1, way.marks⟩] else []
  | .char _ => []
  | .accept => []

def waits : Step → Bool
  | .char _ => true
  | .accept => true
  | _ => false

theorem length_goOn_le (place : Place) (position : Nat) (way : Way) (step : Step) :
    (step.goOn place position way).length ≤ 2 := by
  cases step with
  | look condition =>
      rw [goOn]
      split <;> simp
  | _ => simp [goOn]

@[simp] theorem waits_retarget (move : Nat → Nat) (step : Step) :
    (step.retarget move).waits = step.waits := by
  cases step <;> rfl

theorem isInner_of_waits {step : Step} (h : step.waits = true) : step.isInner = false := by
  cases step with
  | mark slot => cases h
  | _ => rfl

end Step

namespace Program

/-- The place of a step when the inner marks before it are left out. -/
def place (program : Program) (step : Nat) : Nat :=
  (program.toList.take step).countP (!·.isInner)

variable {program program' : Program}

@[simp] theorem place_zero (program : Program) : program.place 0 = 0 := rfl

theorem place_succ {i : Nat} {step : Step} (h : program[i]? = some step) :
    program.place (i + 1) = program.place i + if step.isInner then 0 else 1 := by
  rw [Array.getElem?_toList.symm] at h
  rw [place, place, List.take_add_one, h, List.countP_append]
  cases hinner : step.isInner <;> simp [hinner]

theorem place_succ_of_kept {i : Nat} {step : Step} (h : program[i]? = some step)
    (hkept : step.isInner = false) : program.place (i + 1) = program.place i + 1 := by
  simp [place_succ h, hkept]

theorem place_of_size_le {i : Nat} (h : program.size ≤ i) :
    program.place i = program.place program.size := by
  have hlength : program.toList.length = program.size := Array.length_toList
  rw [place, place, List.take_of_length_le (by omega), List.take_of_length_le (by omega)]

theorem place_mono {i j : Nat} (h : i ≤ j) : program.place i ≤ program.place j :=
  List.Sublist.countP_le (List.take_sublist_take_left h)

/-- Only one of the steps that are kept comes to a place. -/
theorem place_inj {i j : Nat} {step step' : Step} (hi : program[i]? = some step)
    (hj : program[j]? = some step') (hstep : step.isInner = false) (hstep' : step'.isInner = false)
    (h : program.place i = program.place j) : i = j := by
  have hi' := place_succ_of_kept hi hstep
  have hj' := place_succ_of_kept hj hstep'
  rcases Nat.lt_trichotomy i j with hlt | heq | hlt
  · have hle : program.place (i + 1) ≤ program.place j := place_mono hlt
    omega
  · exact heq
  · have hle : program.place (j + 1) ≤ program.place i := place_mono hlt
    omega

/-- The second program is the first without its inner marks. -/
structure Unmarks (program program' : Program) : Prop where
  size : program'.size = program.place program.size
  kept : ∀ i step, program[i]? = some step → step.isInner = false →
    program'[program.place i]? = some (step.retarget program.place)

end Program

def Marks.outer (marks : Marks) : Marks := marks.filter (·.1 ≤ 1)

def Way.unmark (program : Program) (way : Way) : Way :=
  ⟨program.place way.step, Marks.outer way.marks⟩

@[simp] theorem Way.step_unmark (program : Program) (way : Way) :
    (way.unmark program).step = program.place way.step := rfl

/-! ## Rounds -/

/-- Pending ways are followed until none is left, with as many rounds as it takes. -/
inductive Follows (program : Program) (place : Place) (position : Nat) :
    List Way → Array Nat → Array Way → Frontier → Prop
  | done (reached : Array Nat) (waiting : Array Way) :
      Follows program place position [] reached waiting ⟨reached, waiting⟩
  | drop {way : Way} {pending : List Way} {reached : Array Nat} {waiting : Array Way}
      {frontier : Frontier}
      (hdrop : program.size ≤ way.step ∨ reached[way.step]? = some (position + 1))
      (hrest : Follows program place position pending reached waiting frontier) :
      Follows program place position (way :: pending) reached waiting frontier
  | take {way : Way} {step : Step} {pending : List Way} {reached : Array Nat}
      {waiting : Array Way} {frontier : Frontier} (hstep : program[way.step]? = some step)
      (hnew : reached[way.step]? ≠ some (position + 1))
      (hrest : Follows program place position (step.goOn place position way ++ pending)
        (reached.setIfInBounds way.step (position + 1))
        (if step.waits then waiting.push way else waiting) frontier) :
      Follows program place position (way :: pending) reached waiting frontier

variable {program program' : Program} {place : Place} {position rounds : Nat}
  {pending : List Way} {reached reached' : Array Nat} {waiting : Array Way}
  {frontier frontier' : Frontier}

namespace Frontier

theorem follow_cons (way : Way) :
    follow program place position (rounds + 1) (way :: pending) reached waiting =
      if reached[way.step]? = some (position + 1) then
        follow program place position rounds pending reached waiting
      else
        match program[way.step]? with
        | none =>
            follow program place position rounds pending
              (reached.setIfInBounds way.step (position + 1)) waiting
        | some step =>
            follow program place position rounds (step.goOn place position way ++ pending)
              (reached.setIfInBounds way.step (position + 1))
              (if step.waits then waiting.push way else waiting) := by
  rw [follow]
  split
  · rfl
  · cases program[way.step]? with
    | none => rfl
    | some step =>
        cases step with
        | look condition =>
            by_cases hholds : condition.holds place = true <;>
              simp [Step.goOn, Step.waits, hholds]
        | _ => rfl

def unreached (position : Nat) (reached : Array Nat) : Nat :=
  reached.toList.countP (· != position + 1)

theorem unreached_set {i : Nat} (hi : i < reached.size)
    (hnew : reached[i]? ≠ some (position + 1)) :
    unreached position (reached.setIfInBounds i (position + 1)) + 1 =
      unreached position reached := by
  have hlength : i < reached.toList.length := by simpa using hi
  rw [Array.getElem?_eq_getElem hi, ne_eq, Option.some.injEq] at hnew
  have hpos : 0 < unreached position reached :=
    List.countP_pos_iff.2 ⟨reached[i], by simp, by simpa using hnew⟩
  rw [unreached, Array.toList_setIfInBounds, List.countP_set hlength]
  rw [unreached] at hpos ⊢
  simp only [Array.getElem_toList, bne_iff_ne, ne_eq, hnew, not_false_iff, if_true, bne_self_eq_false,
    Bool.false_eq_true, if_false]
  omega

/-- Every round drops a way, or reaches a step and adds one way at most. -/
theorem follows_follow (hsize : reached.size = program.size)
    (hrounds : pending.length + 2 * unreached position reached ≤ rounds) :
    Follows program place position pending reached waiting
      (follow program place position rounds pending reached waiting) := by
  induction rounds generalizing pending reached waiting with
  | zero =>
      obtain rfl : pending = [] := List.length_eq_zero_iff.1 (by omega)
      exact .done _ _
  | succ rounds ih =>
      cases pending with
      | nil => exact .done _ _
      | cons way pending =>
          rw [List.length_cons] at hrounds
          rw [follow_cons]
          split
          · next hreached => exact .drop (.inr hreached) (ih hsize (by omega))
          · next hnew =>
              split
              · next hnone =>
                  have hout : program.size ≤ way.step := Array.getElem?_eq_none_iff.1 hnone
                  rw [Array.setIfInBounds_eq_of_size_le (by omega)]
                  exact .drop (.inl hout) (ih hsize (by omega))
              · next step hstep =>
                  have hlt : way.step < reached.size := by
                    rw [hsize]
                    exact (Array.getElem?_eq_some_iff.1 hstep).1
                  have hless := unreached_set hlt hnew
                  have hways := Step.length_goOn_le place position way step
                  refine .take hstep hnew (ih (by simpa using hsize) ?_)
                  rw [List.length_append]
                  omega

end Frontier

theorem Follows.unique (h : Follows program place position pending reached waiting frontier)
    (h' : Follows program place position pending reached waiting frontier') :
    frontier = frontier' := by
  induction h with
  | done =>
      cases h'
      rfl
  | drop hdrop _ ih =>
      cases h' with
      | drop _ hrest => exact ih hrest
      | take hstep hnew _ =>
          obtain hout | hreached := hdrop
          · rw [Array.getElem?_eq_none hout] at hstep
            cases hstep
          · exact absurd hreached hnew
  | take hstep hnew _ ih =>
      cases h' with
      | drop hdrop _ =>
          obtain hout | hreached := hdrop
          · rw [Array.getElem?_eq_none hout] at hstep
            cases hstep
          · exact absurd hreached hnew
      | take hstep' _ hrest =>
          obtain rfl := Option.some.inj (hstep.symm.trans hstep')
          exact ih hrest

def ReachedUpTo (position : Nat) (reached : Array Nat) : Prop :=
  ∀ i last : Nat, reached[i]? = some last → last ≤ position + 1

theorem Follows.reachedUpTo (h : Follows program place position pending reached waiting frontier)
    (hreached : ReachedUpTo position reached) : ReachedUpTo position frontier.reached := by
  induction h with
  | done => exact hreached
  | drop _ _ ih => exact ih hreached
  | take _ _ _ ih =>
      refine ih fun i last hlast => ?_
      rw [Array.getElem?_setIfInBounds] at hlast
      split at hlast
      · split at hlast
        · cases hlast
          exact Nat.le_refl _
        · cases hlast
      · exact hreached i last hlast

def Way.WaitsIn (program : Program) (way : Way) : Prop :=
  ∃ step, program[way.step]? = some step ∧ step.waits = true

theorem Follows.waitsIn (h : Follows program place position pending reached waiting frontier)
    (hwaiting : ∀ way ∈ waiting, way.WaitsIn program) :
    ∀ way ∈ frontier.waiting, way.WaitsIn program := by
  induction h with
  | done => exact hwaiting
  | drop _ _ ih => exact ih hwaiting
  | take hstep _ _ ih =>
      refine ih fun way hway => ?_
      split at hway
      · next hwaits =>
          rcases Array.mem_push.1 hway with hway | rfl
          · exact hwaiting way hway
          · exact ⟨_, hstep, hwaits⟩
      · exact hwaiting way hway

/-! ## The same rounds -/

/--
The same steps have been reached at a position, but for marks: a mark that a way is
`passing` counts as reached before the step behind it.
-/
structure SameReached (program program' : Program) (position : Nat) (passing : Option Nat)
    (reached reached' : Array Nat) : Prop where
  size : reached.size = program.size
  size' : reached'.size = program'.size
  forth : ∀ i : Nat, reached[i]? = some (position + 1) →
    (program'.size ≤ program.place i ∨ reached'[program.place i]? = some (position + 1)) ∨
      ∃ behind ∈ passing, i < behind ∧ program.place behind = program.place i
  back : ∀ (i : Nat) (step : Step), program[i]? = some step → step.isInner = false →
    reached'[program.place i]? = some (position + 1) → reached[i]? = some (position + 1)

theorem getElem?_setIfInBounds_self_or {reached : Array Nat} {i j value : Nat}
    (h : reached[j]? = some value) : (reached.setIfInBounds i value)[j]? = some value := by
  have hlt := (Array.getElem?_eq_some_iff.1 h).1
  by_cases hij : i = j
  · subst hij
    rw [Array.getElem?_setIfInBounds_self_of_lt hlt]
  · rw [Array.getElem?_setIfInBounds_ne hij]
    exact h

namespace SameReached

variable {passing : Option Nat} {i : Nat} {step : Step}

theorem settled (h : SameReached program program' position (some i) reached reached')
    (hunmarks : program.Unmarks program')
    (hdrop : program.size ≤ i ∨ reached[i]? = some (position + 1)) :
    program'.size ≤ program.place i ∨ reached'[program.place i]? = some (position + 1) := by
  obtain hout | hreached := hdrop
  · exact .inl (Nat.le_of_eq (hunmarks.size.trans (Program.place_of_size_le hout).symm))
  · obtain hsettled | ⟨behind, hpassing, hlt, -⟩ := h.forth i hreached
    · exact hsettled
    · cases hpassing
      omega

theorem drop (h : SameReached program program' position (some i) reached reached')
    (hsettled : program'.size ≤ program.place i ∨
      reached'[program.place i]? = some (position + 1)) :
    SameReached program program' position passing reached reached' where
  size := h.size
  size' := h.size'
  back := h.back
  forth j hj := by
    left
    obtain hsame | ⟨behind, hpassing, -, hplace⟩ := h.forth j hj
    · exact hsame
    · cases hpassing
      rwa [← hplace]

/-- Passing a mark takes a round in the first program only. -/
theorem pass (h : SameReached program program' position (some i) reached reached')
    (hstep : program[i]? = some step) (hinner : step.isInner = true) :
    SameReached program program' position (some (i + 1))
      (reached.setIfInBounds i (position + 1)) reached' where
  size := by simpa using h.size
  size' := h.size'
  back j other hj hkept hreached :=
    getElem?_setIfInBounds_self_or (h.back j other hj hkept hreached)
  forth j hj := by
    have hplace : program.place (i + 1) = program.place i := by
      simp [Program.place_succ hstep, hinner]
    by_cases hij : i = j
    · subst hij
      exact .inr ⟨i + 1, rfl, by omega, hplace⟩
    · rw [Array.getElem?_setIfInBounds_ne hij] at hj
      obtain hsame | ⟨behind, hpassing, hlt, heq⟩ := h.forth j hj
      · exact .inl hsame
      · cases hpassing
        exact .inr ⟨i + 1, rfl, by omega, hplace.trans heq⟩

/-- Any other step is reached in both. -/
theorem take (h : SameReached program program' position (some i) reached reached')
    (hunmarks : program.Unmarks program') (hstep : program[i]? = some step)
    (hkept : step.isInner = false) :
    SameReached program program' position passing (reached.setIfInBounds i (position + 1))
      (reached'.setIfInBounds (program.place i) (position + 1)) where
  size := by simpa using h.size
  size' := by simpa using h.size'
  back j other hj hother hreached := by
    by_cases hplace : program.place i = program.place j
    · obtain rfl := Program.place_inj hstep hj hkept hother hplace
      have hlt := (Array.getElem?_eq_some_iff.1 hstep).1
      rw [Array.getElem?_setIfInBounds_self_of_lt (by rw [h.size]; exact hlt)]
    · rw [Array.getElem?_setIfInBounds_ne hplace] at hreached
      exact getElem?_setIfInBounds_self_or (h.back j other hj hother hreached)
  forth j hj := by
    left
    have hlt := (Array.getElem?_eq_some_iff.1 (hunmarks.kept i step hstep hkept)).1
    have hset : (reached'.setIfInBounds (program.place i) (position + 1))[program.place i]? =
        some (position + 1) :=
      Array.getElem?_setIfInBounds_self_of_lt (by rw [h.size']; exact hlt)
    by_cases hij : i = j
    · subst hij
      exact .inr hset
    · rw [Array.getElem?_setIfInBounds_ne hij] at hj
      obtain (hout | hreached) | ⟨behind, hpassing, -, heq⟩ := h.forth j hj
      · exact .inl hout
      · exact .inr (getElem?_setIfInBounds_self_or hreached)
      · cases hpassing
        exact .inr (heq ▸ hset)

end SameReached

theorem Step.map_unmark_goOn {way : Way} {step : Step} (hstep : program[way.step]? = some step)
    (hkept : step.isInner = false) :
    (step.goOn place position way).map (Way.unmark program) =
      (step.retarget program.place).goOn place position (way.unmark program) := by
  have hbehind := Program.place_succ_of_kept hstep hkept
  cases step with
  | mark slot =>
      have hslot : slot ≤ 1 := by simpa [isInner] using hkept
      simp [goOn, retarget, Way.unmark, hbehind, Marks.outer, hslot]
  | look condition =>
      by_cases hholds : condition.holds place = true <;>
        simp [goOn, retarget, Way.unmark, hbehind, hholds]
  | _ => simp [goOn, retarget, Way.unmark]

theorem Way.unmark_passing (place : Place) (position : Nat) {way : Way} {step : Step}
    (hstep : program[way.step]? = some step)
    (hinner : step.isInner = true) :
    step.waits = false ∧ ∃ next, step.goOn place position way = [next] ∧
      next.step = way.step + 1 ∧ next.unmark program = way.unmark program := by
  cases step with
  | mark slot =>
      have hslot : ¬ slot ≤ 1 := by simpa [Step.isInner] using hinner
      have hplace : program.place (way.step + 1) = program.place way.step := by
        simp [Program.place_succ hstep, hinner]
      exact ⟨rfl, ⟨way.step + 1, (slot, position) :: way.marks⟩, rfl, rfl,
        by simp [Way.unmark, Marks.outer, hslot, hplace]⟩
  | _ => cases hinner

/-- Ways are followed to the same steps, round by round, without the rounds that pass marks. -/
theorem Follows.unmark (hunmarks : program.Unmarks program')
    (h : Follows program place position pending reached waiting frontier)
    (hsame : SameReached program program' position (pending.head?.map (·.step)) reached reached') :
    ∃ reachedAfter, Follows program' place position (pending.map (Way.unmark program)) reached'
        (waiting.map (Way.unmark program))
        ⟨reachedAfter, frontier.waiting.map (Way.unmark program)⟩ ∧
      SameReached program program' position none frontier.reached reachedAfter := by
  induction h generalizing reached' with
  | done reached waiting => exact ⟨reached', .done _ _, hsame⟩
  | @drop way pending reached waiting frontier hdrop _ ih =>
      have hsettled := hsame.settled hunmarks hdrop
      obtain ⟨reachedAfter, hfollows, hafter⟩ := ih (hsame.drop hsettled)
      exact ⟨reachedAfter, .drop hsettled hfollows, hafter⟩
  | @take way step pending reached waiting frontier hstep hnew _ ih =>
      cases hinner : step.isInner with
      | true =>
          obtain ⟨hwaits, next, hgoOn, hbehind, hunmark⟩ :=
            Way.unmark_passing place position hstep hinner
          have hpass := hsame.pass hstep hinner
          rw [hgoOn, List.singleton_append, List.head?_cons, Option.map_some, hbehind] at ih
          obtain ⟨reachedAfter, hfollows, hafter⟩ := ih hpass
          rw [List.map_cons, hunmark, hwaits, if_neg (by decide)] at hfollows
          exact ⟨reachedAfter, hfollows, hafter⟩
      | false =>
          have hkept := hunmarks.kept way.step step hstep hinner
          obtain ⟨reachedAfter, hfollows, hafter⟩ := ih (hsame.take hunmarks hstep hinner)
          refine ⟨reachedAfter, .take hkept (fun hreached => hnew ?_) ?_, hafter⟩
          · exact hsame.back way.step step hstep hinner hreached
          · rw [List.map_append, Step.map_unmark_goOn hstep hinner, apply_ite (Array.map _),
              Array.map_push] at hfollows
            simpa using hfollows

/-! ## The same search -/

structure Frontier.Unmarks (program program' : Program) (position : Nat)
    (frontier frontier' : Frontier) : Prop where
  same : SameReached program program' position none frontier.reached frontier'.reached
  upTo : ReachedUpTo position frontier.reached
  upTo' : ReachedUpTo position frontier'.reached
  waiting : frontier'.waiting = frontier.waiting.map (Way.unmark program)
  waits : ∀ way ∈ frontier.waiting, way.WaitsIn program

namespace Frontier

theorem follows_add (place : Place) (position : Nat) (way : Way)
    (hsize : frontier.reached.size = program.size) :
    Follows program place position [way] frontier.reached frontier.waiting
      (frontier.add program place position way) := by
  have hcount : unreached position frontier.reached ≤ frontier.reached.toList.length :=
    List.countP_le_length
  rw [Array.length_toList] at hcount
  exact follows_follow hsize (by rw [List.length_singleton]; omega)

namespace Unmarks

theorem add (hunmarks : program.Unmarks program')
    (h : Unmarks program program' position frontier frontier') (place : Place) (way : Way) :
    Unmarks program program' position (frontier.add program place position way)
      (frontier'.add program' place position (way.unmark program)) := by
  have hfollows := follows_add place position way h.same.size
  have hfollows' := follows_add place position (way.unmark program) h.same.size'
  have hstart : SameReached program program' position (some way.step) frontier.reached
      frontier'.reached :=
    ⟨h.same.size, h.same.size', fun i hi => .inl ((h.same.forth i hi).resolve_right (by simp)),
      h.same.back⟩
  obtain ⟨reachedAfter, hunmark, hafter⟩ := hfollows.unmark hunmarks hstart
  rw [h.waiting] at hfollows'
  have hsame := hunmark.unique hfollows'
  have hupTo' := hfollows'.reachedUpTo h.upTo'
  rw [← hsame] at hupTo' ⊢
  exact ⟨hafter, hfollows.reachedUpTo h.upTo, hupTo', rfl, hfollows.waitsIn h.waits⟩

theorem next (h : Unmarks program program' position frontier frontier') :
    Unmarks program program' (position + 1) ⟨frontier.reached, #[]⟩ ⟨frontier'.reached, #[]⟩ where
  same := by
    refine ⟨h.same.size, h.same.size', fun i hi => ?_, fun i _ _ _ hi => ?_⟩
    · have hle := h.upTo i _ hi
      omega
    · have hle := h.upTo' _ _ hi
      omega
  upTo i last hlast := Nat.le_succ_of_le (h.upTo i last hlast)
  upTo' i last hlast := Nat.le_succ_of_le (h.upTo' i last hlast)
  waiting := by simp
  waits way hway := by simp at hway

theorem begin (hunmarks : program.Unmarks program')
    (h : Unmarks program program' position frontier frontier') (place : Place)
    (best : Option Marks) :
    Unmarks program program' position
      (if best.isNone then frontier.add program place position ⟨0, []⟩ else frontier)
      (if (best.map Marks.outer).isNone then frontier'.add program' place position ⟨0, []⟩
        else frontier') := by
  rw [Option.isNone_map]
  split
  · exact h.add hunmarks place ⟨0, []⟩
  · exact h

theorem start : Unmarks program program' 0 ⟨Array.replicate program.size 0, #[]⟩
    ⟨Array.replicate program'.size 0, #[]⟩ := by
  have zero {size i last : Nat} (h : (Array.replicate size 0)[i]? = some last) : last = 0 := by
    rw [Array.getElem?_replicate] at h
    split at h
    · exact (Option.some.inj h).symm
    · cases h
  refine ⟨⟨by simp, by simp, fun i hi => ?_, fun i _ _ _ hi => ?_⟩, fun i last hlast => ?_,
    fun i last hlast => ?_, by simp, by simp⟩
  · exact absurd (zero hi) (by simp)
  · exact absurd (zero hi) (by simp)
  · rw [zero hlast]
    exact Nat.zero_le _
  · rw [zero hlast]
    exact Nat.zero_le _

end Unmarks

end Frontier

theorem Way.WaitsIn.exists_step (hunmarks : program.Unmarks program') {way : Way}
    (h : way.WaitsIn program) :
    (∃ set, program[way.step]? = some (.char set) ∧
        program'[program.place way.step]? = some (.char set) ∧
        program.place (way.step + 1) = program.place way.step + 1) ∨
      (program[way.step]? = some .accept ∧
        program'[program.place way.step]? = some .accept) := by
  obtain ⟨step, hstep, hwaits⟩ := h
  have hinner := Step.isInner_of_waits hwaits
  have hkept := hunmarks.kept way.step step hstep hinner
  cases step with
  | char set => exact .inl ⟨set, hstep, hkept, Program.place_succ_of_kept hstep hinner⟩
  | accept => exact .inr ⟨hstep, hkept⟩
  | _ => cases hwaits

theorem advance_unmark (hunmarks : program.Unmarks program') (c : Char) (place : Place)
    {ways : List Way}
    (hways : ∀ way ∈ ways, way.WaitsIn program)
    (h : Frontier.Unmarks program program' position frontier frontier') :
    Frontier.Unmarks program program' position
        (advance program c place position ways frontier).1
        (advance program' c place position (ways.map (Way.unmark program)) frontier').1 ∧
      (advance program' c place position (ways.map (Way.unmark program)) frontier').2 =
        (advance program c place position ways frontier).2.map Marks.outer := by
  induction ways generalizing frontier frontier' with
  | nil => exact ⟨h, rfl⟩
  | cons way rest ih =>
      have hrest : ∀ way ∈ rest, way.WaitsIn program := fun way hway => hways way (by simp [hway])
      rw [List.map_cons, advance, advance, Way.step_unmark]
      obtain ⟨set, hstep, hstep', hbehind⟩ | ⟨hstep, hstep'⟩ :=
        (hways way (by simp)).exists_step hunmarks
      · rw [hstep, hstep']
        dsimp only
        split
        · have hadd := h.add hunmarks place ⟨way.step + 1, way.marks⟩
          rw [Way.unmark, hbehind] at hadd
          exact ih hrest hadd
        · exact ih hrest h
      · rw [hstep, hstep']
        exact ⟨h, rfl⟩

theorem arrived?_unmark (hunmarks : program.Unmarks program') {ways : List Way}
    (hways : ∀ way ∈ ways, way.WaitsIn program) :
    arrived? program' (ways.map (Way.unmark program)) =
      (arrived? program ways).map Marks.outer := by
  induction ways with
  | nil => rfl
  | cons way rest ih =>
      have hrest := ih fun way hway => hways way (by simp [hway])
      unfold arrived? at hrest ⊢
      rw [List.map_cons, List.find?_cons, List.find?_cons, Way.step_unmark]
      obtain ⟨set, hstep, hstep', -⟩ | ⟨hstep, hstep'⟩ :=
        (hways way (by simp)).exists_step hunmarks
      · rw [hstep, hstep']
        exact hrest
      · rw [hstep, hstep']
        rfl

theorem searchFrom_unmark (hunmarks : program.Unmarks program') (before : Option Char)
    (best : Option Marks) (text : List Char)
    (h : Frontier.Unmarks program program' position frontier frontier') :
    searchFrom program' position before (best.map Marks.outer) frontier' text =
      (searchFrom program position before best frontier text).map Marks.outer := by
  induction text generalizing position before best frontier frontier' with
  | nil =>
      have hbegin := h.begin hunmarks ⟨before, none⟩ best
      rw [searchFrom, searchFrom, hbegin.waiting, Array.toList_map,
        arrived?_unmark hunmarks fun way hway => hbegin.waits way (by simpa using hway)]
      cases arrived? program _ <;> simp
  | cons c rest ih =>
      have hbegin := h.begin hunmarks ⟨before, some c⟩ best
      rw [searchFrom, searchFrom]
      generalize (if best.isNone then _ else _ : Frontier) = begun at hbegin ⊢
      generalize (if (best.map Marks.outer).isNone then _ else _ : Frontier) = begun' at hbegin ⊢
      dsimp only
      obtain ⟨hnext, harrived⟩ := advance_unmark hunmarks c ⟨some c, rest.head?⟩
        (fun way hway => hbegin.waits way (Array.mem_toList_iff.1 hway)) hbegin.next
      rw [hbegin.waiting, ← Array.isEmpty_toList, Array.toList_map, List.isEmpty_map,
        Array.isEmpty_toList, Option.isSome_map]
      split
      · rfl
      · rw [harrived, ← Option.map_or]
        exact ih _ _ hnext

/-- A program without inner marks finds the same match. -/
theorem search_unmark (hunmarks : program.Unmarks program') (text : List Char) :
    search program' text = (search program text).map Marks.outer :=
  searchFrom_unmark hunmarks none none text .start

end LogPattern.Regex
