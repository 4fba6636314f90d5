import LogPattern.Proofs.Regex.Unmarked

/-!
# What a search finds

A search finds a match exactly if some way leads through the program to its end.  A step
that has been reached at a position is not followed again there, since all that it leads
to is waiting already, and no way starts any more only where a match has been found.
-/

namespace LogPattern.Regex

def Step.successors (place : Place) (i : Nat) : Step → List Nat
  | .jump target => [target]
  | .split first second => [first, second]
  | .mark _ => [i + 1]
  | .look condition => if condition.holds place then [i + 1] else []
  | .char _ => []
  | .accept => []

theorem Step.map_step_goOn (place : Place) (position : Nat) (way : Way) (step : Step) :
    (step.goOn place position way).map (·.step) = step.successors place way.step := by
  cases step with
  | look condition =>
      rw [goOn, successors]
      split <;> rfl
  | _ => rfl

/--
Some way leads from a step to the end of the program, with a character before it, if any,
and a text behind it.
-/
inductive Leads (program : Program) : Nat → Option Char → List Char → Prop
  | arrive {i : Nat} {before : Option Char} {text : List Char}
      (hstep : program[i]? = some .accept) : Leads program i before text
  | pass {i next : Nat} {before : Option Char} {text : List Char} {step : Step}
      (hstep : program[i]? = some step) (hnext : next ∈ step.successors ⟨before, text.head?⟩ i)
      (hrest : Leads program next before text) : Leads program i before text
  | take {i : Nat} {before : Option Char} {c : Char} {text : List Char} {set : CodeSet}
      (hstep : program[i]? = some (.char set)) (hc : set.containsChar c = true)
      (hrest : Leads program (i + 1) (some c) text) : Leads program i before (c :: text)

variable {program : Program} {place : Place} {position i : Nat} {before : Option Char}
  {pending : List Way} {reached : Array Nat} {waiting : Array Way} {frontier : Frontier}

namespace Leads

variable {text : List Char}

theorem lt_size (h : Leads program i before text) : i < program.size := by
  cases h with
  | arrive hstep => exact (Array.getElem?_eq_some_iff.1 hstep).1
  | pass hstep _ _ => exact (Array.getElem?_eq_some_iff.1 hstep).1
  | take hstep _ _ => exact (Array.getElem?_eq_some_iff.1 hstep).1

theorem char_iff {set : CodeSet} {c : Char} (hstep : program[i]? = some (.char set)) :
    Leads program i before (c :: text) ↔
      set.containsChar c = true ∧ Leads program (i + 1) (some c) text := by
  constructor
  · intro h
    cases h with
    | arrive hstep' => rw [hstep] at hstep'; cases hstep'
    | pass hstep' hnext _ =>
        rw [hstep] at hstep'
        cases hstep'
        cases hnext
    | take hstep' hc hrest =>
        rw [hstep] at hstep'
        cases hstep'
        exact ⟨hc, hrest⟩
  · rintro ⟨hc, hrest⟩
    exact .take hstep hc hrest

theorem not_char_nil {set : CodeSet} (hstep : program[i]? = some (.char set)) :
    ¬ Leads program i before [] := by
  intro h
  cases h with
  | arrive hstep' => rw [hstep] at hstep'; cases hstep'
  | pass hstep' hnext _ =>
      rw [hstep] at hstep'
      cases hstep'
      cases hnext

/-- From any other step that is not the end, the way goes on at one of its successors. -/
theorem pass_iff {step : Step} (hstep : program[i]? = some step) (hwaits : step.waits = false) :
    Leads program i before text ↔
      ∃ next ∈ step.successors ⟨before, text.head?⟩ i, Leads program next before text := by
  constructor
  · intro h
    cases h with
    | arrive hstep' =>
        rw [hstep] at hstep'
        cases hstep'
        cases hwaits
    | pass hstep' hnext hrest =>
        rw [hstep] at hstep'
        cases hstep'
        exact ⟨_, hnext, hrest⟩
    | take hstep' _ _ =>
        rw [hstep] at hstep'
        cases hstep'
        cases hwaits
  · rintro ⟨next, hnext, hrest⟩
    exact .pass hstep hnext hrest

end Leads

/-! ## Following ways -/

/-- What comes behind a reached step has been reached too, or is pending. -/
structure Complete (program : Program) (place : Place) (position : Nat) (pending : List Way)
    (reached : Array Nat) (waiting : Array Way) : Prop where
  next : ∀ (i : Nat) (step : Step), program[i]? = some step → reached[i]? = some (position + 1) →
    ∀ next ∈ step.successors place i, next < program.size →
      reached[next]? = some (position + 1) ∨ ∃ way ∈ pending, way.step = next
  waits : ∀ (i : Nat) (step : Step), program[i]? = some step →
    reached[i]? = some (position + 1) → step.waits = true → ∃ way ∈ waiting, way.step = i

namespace Complete

theorem mono {more : List Way} (h : Complete program place position pending reached waiting)
    (hmore : pending ⊆ more) : Complete program place position more reached waiting where
  waits := h.waits
  next i step hstep hreached next hnext hlt := by
    obtain hnext' | ⟨way, hway, hsame⟩ := h.next i step hstep hreached next hnext hlt
    · exact .inl hnext'
    · exact .inr ⟨way, hmore hway, hsame⟩

theorem drop {way : Way} (h : Complete program place position (way :: pending) reached waiting)
    (hdrop : program.size ≤ way.step ∨ reached[way.step]? = some (position + 1)) :
    Complete program place position pending reached waiting where
  waits := h.waits
  next i step hstep hreached next hnext hlt := by
    obtain hnext' | ⟨other, hother, rfl⟩ := h.next i step hstep hreached next hnext hlt
    · exact .inl hnext'
    · rcases List.mem_cons.1 hother with rfl | hother
      · exact .inl (hdrop.resolve_left (Nat.not_le.2 hlt))
      · exact .inr ⟨other, hother, rfl⟩

theorem take {way : Way} {step : Step}
    (h : Complete program place position (way :: pending) reached waiting)
    (hsize : reached.size = program.size) (hstep : program[way.step]? = some step) :
    Complete program place position (step.goOn place position way ++ pending)
      (reached.setIfInBounds way.step (position + 1))
      (if step.waits then waiting.push way else waiting) := by
  have hlt : way.step < reached.size := by
    rw [hsize]
    exact (Array.getElem?_eq_some_iff.1 hstep).1
  constructor
  · intro i other hother hreached next hnext hbound
    by_cases hi : way.step = i
    · subst hi
      obtain rfl := Option.some.inj (hstep.symm.trans hother)
      rw [← Step.map_step_goOn place position] at hnext
      obtain ⟨behind, hbehind, hsame⟩ := List.mem_map.1 hnext
      exact .inr ⟨behind, List.mem_append_left _ hbehind, hsame⟩
    · rw [Array.getElem?_setIfInBounds_ne hi] at hreached
      obtain hnext' | ⟨behind, hbehind, rfl⟩ := h.next i other hother hreached next hnext hbound
      · exact .inl (getElem?_setIfInBounds_self_or hnext')
      · rcases List.mem_cons.1 hbehind with rfl | hbehind
        · exact .inl (Array.getElem?_setIfInBounds_self_of_lt hlt)
        · exact .inr ⟨behind, List.mem_append_right _ hbehind, rfl⟩
  · intro i other hother hreached hwaits
    by_cases hi : way.step = i
    · subst hi
      obtain rfl := Option.some.inj (hstep.symm.trans hother)
      rw [if_pos hwaits]
      exact ⟨way, Array.mem_push_self, rfl⟩
    · rw [Array.getElem?_setIfInBounds_ne hi] at hreached
      obtain ⟨waits, hmem, hsame⟩ := h.waits i other hother hreached hwaits
      refine ⟨waits, ?_, hsame⟩
      split
      · exact Array.mem_push_of_mem _ hmem
      · exact hmem

/-- With nothing pending, all that a reached step leads to is waiting. -/
theorem exists_waiting {text : List Char}
    (h : Complete program ⟨before, text.head?⟩ position [] reached waiting)
    (hreached : reached[i]? = some (position + 1)) (hleads : Leads program i before text) :
    ∃ way ∈ waiting, Leads program way.step before text := by
  induction hleads with
  | @arrive i before text hstep =>
      obtain ⟨way, hway, rfl⟩ := h.waits i .accept hstep hreached rfl
      exact ⟨way, hway, .arrive hstep⟩
  | @pass i next before text step hstep hnext hrest ih =>
      obtain hnext' | ⟨_, hnone, -⟩ := h.next i step hstep hreached next hnext hrest.lt_size
      · exact ih h hnext'
      · cases hnone
  | @take i before c text set hstep hc hrest =>
      obtain ⟨way, hway, rfl⟩ := h.waits i (.char set) hstep hreached rfl
      exact ⟨way, hway, .take hstep hc hrest⟩

end Complete

namespace Follows

theorem size_eq (h : Follows program place position pending reached waiting frontier)
    (hsize : reached.size = program.size) : frontier.reached.size = program.size := by
  induction h with
  | done => exact hsize
  | drop _ _ ih => exact ih hsize
  | take _ _ _ ih => exact ih (by rw [Array.size_setIfInBounds, hsize])

theorem subset (h : Follows program place position pending reached waiting frontier) {way : Way}
    (hway : way ∈ waiting) : way ∈ frontier.waiting := by
  induction h with
  | done => exact hway
  | drop _ _ ih => exact ih hway
  | take _ _ _ ih =>
      refine ih ?_
      split
      · exact Array.mem_push_of_mem _ hway
      · exact hway

/-- Whatever is pending has been reached in the end, and what has been reached stays so. -/
theorem reaches (h : Follows program place position pending reached waiting frontier)
    (hsize : reached.size = program.size) :
    (∀ i : Nat, reached[i]? = some (position + 1) → frontier.reached[i]? = some (position + 1)) ∧
      ∀ way ∈ pending, way.step < program.size →
        frontier.reached[way.step]? = some (position + 1) := by
  induction h with
  | done => exact ⟨fun _ hi => hi, fun _ hnone => nomatch hnone⟩
  | @drop way pending reached waiting frontier hdrop _ ih =>
      obtain ⟨hstays, hpending⟩ := ih hsize
      refine ⟨hstays, fun other hother hlt => ?_⟩
      rcases List.mem_cons.1 hother with rfl | hother
      · exact hstays _ (hdrop.resolve_left (Nat.not_le.2 hlt))
      · exact hpending other hother hlt
  | @take way step pending reached waiting frontier hstep _ _ ih =>
      obtain ⟨hstays, hpending⟩ := ih (by rw [Array.size_setIfInBounds, hsize])
      refine ⟨fun i hi => hstays i (getElem?_setIfInBounds_self_or hi), fun other hother hlt => ?_⟩
      rcases List.mem_cons.1 hother with rfl | hother
      · exact hstays _ (Array.getElem?_setIfInBounds_self_of_lt (by rw [hsize]; exact hlt))
      · exact hpending other (List.mem_append_right _ hother) hlt

theorem complete (h : Follows program place position pending reached waiting frontier)
    (hsize : reached.size = program.size)
    (hcomplete : Complete program place position pending reached waiting) :
    Complete program place position [] frontier.reached frontier.waiting := by
  induction h with
  | done => exact hcomplete
  | drop hdrop _ ih => exact ih hsize (hcomplete.drop hdrop)
  | take hstep _ _ ih =>
      exact ih (by rw [Array.size_setIfInBounds, hsize]) (hcomplete.take hsize hstep)

/-- What is waiting in the end was waiting before, or some pending way leads to it. -/
theorem sound {text : List Char}
    (h : Follows program ⟨before, text.head?⟩ position pending reached waiting frontier)
    (hleads : ∃ way ∈ frontier.waiting, Leads program way.step before text) :
    (∃ way ∈ waiting, Leads program way.step before text) ∨
      ∃ way ∈ pending, Leads program way.step before text := by
  induction h with
  | done => exact .inl hleads
  | @drop way pending reached waiting frontier _ _ ih =>
      refine (ih hleads).imp_right ?_
      rintro ⟨other, hother, hrest⟩
      exact ⟨other, List.mem_cons_of_mem _ hother, hrest⟩
  | @take way step pending reached waiting frontier hstep _ _ ih =>
      obtain ⟨other, hother, hrest⟩ | ⟨other, hother, hrest⟩ := ih hleads
      · split at hother
        · rcases Array.mem_push.1 hother with hother | rfl
          · exact .inl ⟨other, hother, hrest⟩
          · exact .inr ⟨other, List.mem_cons_self, hrest⟩
        · exact .inl ⟨other, hother, hrest⟩
      · rcases List.mem_append.1 hother with hnext | hother
        · have hbehind : other.step ∈ step.successors ⟨before, text.head?⟩ way.step := by
            rw [← Step.map_step_goOn _ position]
            exact List.mem_map_of_mem hnext
          exact .inr ⟨way, List.mem_cons_self, .pass hstep hbehind hrest⟩
        · exact .inr ⟨other, List.mem_cons_of_mem _ hother, hrest⟩

end Follows

/-! ## Frontiers -/

structure Frontier.Settled (program : Program) (place : Place) (position : Nat)
    (frontier : Frontier) : Prop where
  size : frontier.reached.size = program.size
  upTo : ReachedUpTo position frontier.reached
  complete : Complete program place position [] frontier.reached frontier.waiting
  waits : ∀ way ∈ frontier.waiting, way.WaitsIn program

def Frontier.Leads (program : Program) (before : Option Char) (text : List Char)
    (frontier : Frontier) : Prop :=
  ∃ way ∈ frontier.waiting, Regex.Leads program way.step before text

namespace Frontier.Settled

theorem add (h : frontier.Settled program place position) (way : Way) :
    (frontier.add program place position way).Settled program place position := by
  have hfollows := follows_add place position way h.size
  exact ⟨hfollows.size_eq h.size, hfollows.reachedUpTo h.upTo,
    hfollows.complete h.size (h.complete.mono (List.nil_subset _)), hfollows.waitsIn h.waits⟩

theorem leads_add {text : List Char}
    (h : frontier.Settled program ⟨before, text.head?⟩ position) (way : Way) :
    (frontier.add program ⟨before, text.head?⟩ position way).Leads program before text ↔
      frontier.Leads program before text ∨ Regex.Leads program way.step before text := by
  have hfollows := follows_add ⟨before, text.head?⟩ position way h.size
  constructor
  · intro hleads
    refine (hfollows.sound hleads).imp_right ?_
    rintro ⟨other, hother, hrest⟩
    exact List.mem_singleton.1 hother ▸ hrest
  · rintro (⟨other, hother, hrest⟩ | hrest)
    · exact ⟨other, hfollows.subset hother, hrest⟩
    · have hreached := (hfollows.reaches h.size).2 way (List.mem_singleton_self _) hrest.lt_size
      exact (h.add way).complete.exists_waiting hreached hrest

theorem next (h : frontier.Settled program place position) (place' : Place) :
    Settled program place' (position + 1) ⟨frontier.reached, #[]⟩ := by
  have hnone {i : Nat} (hi : frontier.reached[i]? = some (position + 1 + 1)) : False := by
    have hle := h.upTo i _ hi
    omega
  refine ⟨h.size, fun i last hlast => Nat.le_succ_of_le (h.upTo i last hlast),
    ⟨fun _ _ _ hi => (hnone hi).elim, fun _ _ _ hi => (hnone hi).elim⟩, fun way hway => ?_⟩
  simp at hway

theorem start (program : Program) (place : Place) :
    Settled program place 0 ⟨Array.replicate program.size 0, #[]⟩ := by
  have hzero {i last : Nat} (h : (Array.replicate program.size 0)[i]? = some last) : last = 0 := by
    rw [Array.getElem?_replicate] at h
    split at h
    · exact (Option.some.inj h).symm
    · cases h
  have hnone {i : Nat} (hi : (Array.replicate program.size 0)[i]? = some (0 + 1)) : False := by
    have hlast := hzero hi
    omega
  refine ⟨Array.size_replicate, fun i last hlast => ?_,
    ⟨fun _ _ _ hi => (hnone hi).elim, fun _ _ _ hi => (hnone hi).elim⟩, fun way hway => ?_⟩
  · rw [hzero hlast]
    exact Nat.zero_le _
  · simp at hway

end Frontier.Settled

/-! ## Searching -/

/-- Taking a character: the ways that lead on behind it, or have arrived. -/
theorem advance_leads {c : Char} {text : List Char} {ways : List Way}
    (hways : ∀ way ∈ ways, way.WaitsIn program)
    (h : frontier.Settled program ⟨some c, text.head?⟩ position) (before : Option Char) :
    (advance program c ⟨some c, text.head?⟩ position ways frontier).1.Settled program
        ⟨some c, text.head?⟩ position ∧
      ((advance program c ⟨some c, text.head?⟩ position ways frontier).2.isSome = true ∨
          (advance program c ⟨some c, text.head?⟩ position ways frontier).1.Leads program
            (some c) text ↔
        frontier.Leads program (some c) text ∨
          ∃ way ∈ ways, Leads program way.step before (c :: text)) := by
  induction ways generalizing frontier with
  | nil => exact ⟨h, by simp [advance]⟩
  | cons way rest ih =>
      have hrest : ∀ way ∈ rest, way.WaitsIn program :=
        fun way hway => hways way (List.mem_cons_of_mem _ hway)
      obtain ⟨step, hstep, hwaits⟩ := hways way List.mem_cons_self
      cases step with
      | char set =>
          have hway : Leads program way.step before (c :: text) ↔ _ := Leads.char_iff hstep
          rw [advance, hstep]
          dsimp only
          split
          · next hc =>
              obtain ⟨hsettled, hleads⟩ := ih hrest (h.add ⟨way.step + 1, way.marks⟩)
              refine ⟨hsettled, hleads.trans ?_⟩
              rw [h.leads_add]
              simp [hway, hc, or_assoc]
          · next hc =>
              obtain ⟨hsettled, hleads⟩ := ih hrest h
              refine ⟨hsettled, hleads.trans ?_⟩
              simp [hway, hc]
      | accept =>
          rw [advance, hstep]
          exact ⟨h, by simp [Leads.arrive hstep]⟩
      | _ => cases hwaits

theorem arrived?_leads {ways : List Way} (hways : ∀ way ∈ ways, way.WaitsIn program)
    (before : Option Char) :
    (arrived? program ways).isSome = true ↔ ∃ way ∈ ways, Leads program way.step before [] := by
  rw [arrived?, Option.isSome_map, List.find?_isSome]
  refine exists_congr fun way => and_congr_right fun hmem => ?_
  obtain ⟨step, hstep, hwaits⟩ := hways way hmem
  cases step with
  | char set => simp [hstep, Leads.not_char_nil hstep]
  | accept => simp [hstep, Leads.arrive hstep]
  | _ => cases hwaits

theorem getLast?_cons_or (c : Char) (front : List Char) (before : Option Char) :
    (c :: front).getLast?.or before = front.getLast?.or (some c) := by
  rw [List.getLast?_cons]
  cases front.getLast? <;> rfl

def LeadsWithin (program : Program) (before : Option Char) (text : List Char) : Prop :=
  ∃ front back, text = front ++ back ∧ Leads program 0 (front.getLast?.or before) back

theorem leadsWithin_nil : LeadsWithin program before [] ↔ Leads program 0 before [] := by
  constructor
  · rintro ⟨front, back, htext, hleads⟩
    obtain ⟨rfl, rfl⟩ := List.append_eq_nil_iff.1 htext.symm
    exact hleads
  · exact fun hleads => ⟨[], [], rfl, hleads⟩

theorem leadsWithin_cons {c : Char} {text : List Char} :
    LeadsWithin program before (c :: text) ↔
      Leads program 0 before (c :: text) ∨ LeadsWithin program (some c) text := by
  constructor
  · rintro ⟨front, back, htext, hleads⟩
    cases front with
    | nil =>
        obtain rfl : back = c :: text := htext.symm
        exact .inl hleads
    | cons first front =>
        obtain ⟨rfl, rfl⟩ := List.cons.inj htext
        exact .inr ⟨front, back, rfl, getLast?_cons_or c front before ▸ hleads⟩
  · rintro (hleads | ⟨front, back, rfl, hleads⟩)
    · exact ⟨[], c :: text, rfl, hleads⟩
    · exact ⟨c :: front, back, rfl, (getLast?_cons_or c front before).symm ▸ hleads⟩

/-- What has been found once is not lost. -/
theorem searchFrom_isSome_of_best {marks : Marks} {text : List Char} :
    (searchFrom program position before (some marks) frontier text).isSome = true := by
  induction text generalizing position before frontier marks with
  | nil =>
      rw [searchFrom]
      cases arrived? program _ <;> rfl
  | cons c rest ih =>
      simp only [searchFrom, Option.isNone_some, Bool.false_eq_true, if_false]
      split
      · rfl
      · cases (advance program c _ _ _ _).2 with
        | none => exact ih
        | some arrived => exact ih

theorem searchFrom_isSome_iff {text : List Char}
    (h : frontier.Settled program ⟨before, text.head?⟩ position) :
    (searchFrom program position before none frontier text).isSome = true ↔
      frontier.Leads program before text ∨ LeadsWithin program before text := by
  induction text generalizing position before frontier with
  | nil =>
      have hadd := h.add ⟨0, []⟩
      have harrived := arrived?_leads (fun way hway =>
        hadd.waits way (Array.mem_toList_iff.1 hway)) before
      have hleads := h.leads_add ⟨0, []⟩
      simp only [Frontier.Leads, Array.mem_toList_iff] at harrived hleads ⊢
      rw [searchFrom, Option.or_none, leadsWithin_nil]
      exact harrived.trans hleads
  | cons c rest ih =>
      have hadd := h.add ⟨0, []⟩
      have hleads := h.leads_add ⟨0, []⟩
      -- the frontier behind the character is filled from what waits before it
      obtain ⟨hnext, hadvance⟩ := advance_leads (fun way hway =>
        hadd.waits way (Array.mem_toList_iff.1 hway)) (hadd.next ⟨some c, rest.head?⟩) before
      simp only [List.head?_cons] at hleads hnext hadvance
      rw [leadsWithin_cons, ← or_assoc, ← hleads]
      simp only [searchFrom, Option.isNone_none, if_true, Option.isSome_none, Bool.and_false,
        Bool.false_eq_true, if_false, Option.or_none]
      generalize frontier.add program ⟨before, some c⟩ position ⟨0, []⟩ = begun at *
      have hbegun : begun.Leads program before (c :: rest) ↔
          ∃ way ∈ begun.waiting.toList, Leads program way.step before (c :: rest) := by
        simp only [Frontier.Leads, Array.mem_toList_iff]
      have hempty : ¬ Frontier.Leads program (some c) rest ⟨begun.reached, #[]⟩ := by
        rintro ⟨way, hway, -⟩
        simp at hway
      rw [or_iff_right hempty] at hadvance
      rw [hbegun, ← hadvance, or_assoc]
      cases harrived : (advance program c ⟨some c, rest.head?⟩ (position + 1)
        begun.waiting.toList ⟨begun.reached, #[]⟩).2 with
      | none => simp [ih hnext]
      | some arrived => simp [searchFrom_isSome_of_best]

/-- A search finds a match exactly if some way leads from the start of the program to its end. -/
theorem search_isSome_iff (program : Program) (text : List Char) :
    (search program text).isSome = true ↔
      ∃ front back, text = front ++ back ∧ Leads program 0 front.getLast? back := by
  have hnone : ¬ Frontier.Leads program none text ⟨Array.replicate program.size 0, #[]⟩ := by
    rintro ⟨way, hway, -⟩
    simp at hway
  rw [search, searchFrom_isSome_iff (.start program ⟨none, text.head?⟩), or_iff_right hnone]
  simp only [LeadsWithin, Option.or_none]

/-! ## Programs without jumps -/

/-- What steps ask for, one after the other; `before` is the character before the text. -/
def Runs (before : Option Char) (text : List Char) : List Step → Prop
  | [] => False
  | .accept :: _ => True
  | .char set :: steps =>
      ∃ c rest, text = c :: rest ∧ set.containsChar c = true ∧ Runs (some c) rest steps
  | .look condition :: steps =>
      condition.holds ⟨before, text.head?⟩ = true ∧ Runs before text steps
  | .mark _ :: steps => Runs before text steps
  | .split _ _ :: _ => False
  | .jump _ :: _ => False

theorem runs_char_cons {set : CodeSet} {c : Char} {text : List Char} {steps : List Step} :
    Runs before (c :: text) (.char set :: steps) ↔
      set.containsChar c = true ∧ Runs (some c) text steps := by
  rw [Runs]
  constructor
  · rintro ⟨d, rest, htext, hc, hrest⟩
    obtain ⟨rfl, rfl⟩ := List.cons.inj htext
    exact ⟨hc, hrest⟩
  · rintro ⟨hc, hrest⟩
    exact ⟨c, text, rfl, hc, hrest⟩

def Step.isStraight : Step → Bool
  | .split _ _ => false
  | .jump _ => false
  | _ => true

theorem leads_iff_runs {steps : List Step} {text : List Char}
    (hsteps : program.toList.drop i = steps) (hstraight : ∀ step ∈ steps, step.isStraight = true) :
    Leads program i before text ↔ Runs before text steps := by
  induction steps generalizing i before text with
  | nil =>
      have hsize : program.size ≤ i := by simpa using hsteps
      refine ⟨fun h => ?_, fun h => h.elim⟩
      have hlt := h.lt_size
      omega
  | cons step steps ih =>
      have hstep : program[i]? = some step := by
        rw [← Array.getElem?_toList, ← List.head?_drop, hsteps]
        rfl
      have hrest : program.toList.drop (i + 1) = steps := by
        rw [← List.tail_drop, hsteps]
        rfl
      have hnext {before : Option Char} {text : List Char} :
          Leads program (i + 1) before text ↔ Runs before text steps :=
        ih hrest fun other hother => hstraight other (List.mem_cons_of_mem _ hother)
      cases step with
      | accept => exact ⟨fun _ => trivial, fun _ => .arrive hstep⟩
      | char set =>
          cases text with
          | nil => simp [Runs, Leads.not_char_nil hstep]
          | cons c rest => rw [Leads.char_iff hstep, runs_char_cons, hnext]
      | mark slot =>
          rw [Leads.pass_iff hstep rfl, Runs, ← hnext]
          simp [Step.successors]
      | look condition =>
          rw [Leads.pass_iff hstep rfl, Runs, ← hnext, Step.successors]
          split <;> simp [*]
      | split first second => cases hstraight _ List.mem_cons_self
      | jump target => cases hstraight _ List.mem_cons_self

theorem runs_single_append {body text : List Char} {steps : List Step} :
    Runs before text (body.map (fun c => Step.char (.single c.toNat)) ++ steps) ↔
      ∃ rest, text = body ++ rest ∧ Runs (body.getLast?.or before) rest steps := by
  induction body generalizing before text with
  | nil => simp
  | cons c body ih =>
      have hsame (d : Char) : (CodeSet.single c.toNat).containsChar d = true ↔ d = c := by
        rw [CodeSet.containsChar, CodeSet.contains_single, decide_eq_true_iff]
        exact ⟨fun h => Char.toNat_inj.1 h, fun h => h ▸ rfl⟩
      rw [List.map_cons, List.cons_append, Runs, getLast?_cons_or]
      constructor
      · rintro ⟨d, rest, rfl, hd, hrest⟩
        obtain rfl := (hsame d).1 hd
        obtain ⟨more, rfl, hmore⟩ := ih.1 hrest
        exact ⟨more, rfl, hmore⟩
      · rintro ⟨more, rfl, hmore⟩
        exact ⟨c, body ++ more, rfl, (hsame c).2 rfl, ih.2 ⟨more, rfl, hmore⟩⟩

end LogPattern.Regex
