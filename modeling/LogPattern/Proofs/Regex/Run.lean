import LogPattern.Proofs.Regex.ActionLocality

/-!
# Runs of the reader

A run reads whole parts, one after the other, and keeps a number of groups open on the
way: at level one above the groups around it, a run stays inside a group.  A run up to a
closing parenthesis does not depend on what stands behind it.
-/

namespace LogPattern.Regex

namespace Progress

/--
The reader gets from one state and text to another by reading parts, with at least
`level` groups open after each of them.
-/
inductive Reads (level : Nat) : Progress → List Char → Progress → List Char → Prop
  | stay (state : Progress) (text : List Char) : Reads level state text state text
  | part {state next final : Progress} {c : Char} {text inner rest back : List Char}
      {action : Action} (hblank : skipBlank state.verbose text = c :: inner)
      (haction : readAction state.verbose (c :: inner) = .ok (action, rest))
      (hnext : action.apply state = .ok next) (hlevel : level ≤ next.openGroups.length)
      (hrest : Reads level next rest final back) : Reads level state text final back

namespace Reads

variable {level : Nat} {state middle final : Progress} {text rest back : List Char}

theorem suffix (h : Reads level state text final back) : back <:+ text := by
  induction h with
  | stay => exact List.suffix_refl _
  | @part state _ _ c text inner _ _ _ hblank haction _ _ _ ih =>
      have hinner := (ih.trans (readAction_suffix haction)).trans (List.suffix_cons c inner)
      exact hinner.trans (hblank ▸ skipBlank_suffix state.verbose text)

theorem trans (h₁ : Reads level state text middle rest) (h₂ : Reads level middle rest final back) :
    Reads level state text final back := by
  induction h₁ with
  | stay => exact h₂
  | part hblank haction hnext hlevel _ ih => exact .part hblank haction hnext hlevel (ih h₂)

theorem mono {lower : Nat} (hlower : lower ≤ level) (h : Reads level state text final back) :
    Reads lower state text final back := by
  induction h with
  | stay => exact .stay _ _
  | part hblank haction hnext hlevel _ ih =>
      exact .part hblank haction hnext (hlower.trans hlevel) ih

/-- The reader has no choice: of two runs one goes on from the other. -/
theorem compare {level' : Nat} {final' : Progress} {back' : List Char}
    (h : Reads level state text final back) (h' : Reads level' state text final' back') :
    Reads level' final back final' back' ∨ Reads level final' back' final back := by
  induction h with
  | stay => exact .inl h'
  | part hblank haction hnext hlevel hrest ih =>
      cases h' with
      | stay => exact .inr (.part hblank haction hnext hlevel hrest)
      | part hblank' haction' hnext' _ hrest' =>
          rw [hblank] at hblank'
          obtain ⟨rfl, rfl⟩ := List.cons.inj hblank'
          rw [haction] at haction'
          obtain ⟨rfl, rfl⟩ := Prod.mk.inj (Except.ok.inj haction')
          rw [hnext] at hnext'
          obtain rfl := Except.ok.inj hnext'
          exact ih hrest'

end Reads

end Progress

/-! ## Runs in place -/

theorem skipBlank_brace (verbose : Bool) (text : List Char) :
    skipBlank verbose ('{' :: text) = '{' :: text := by
  have hwhite : isWhite '{' = false := by decide
  cases verbose <;> simp [skipBlank, skipVerbose, hwhite]

/-- Where a run goes on at a brace, there are counts. -/
theorem Progress.Reads.countsFollow {level : Nat} {state final : Progress} {n w x : List Char}
    (h : Reads level state (n ++ x) final (w ++ x)) (hw : w.head? ≠ some '{') :
    CountsFollow state.verbose n x := by
  rintro inner rfl
  generalize htext : '{' :: inner ++ x = text at h
  generalize hback : w ++ x = back at h
  cases h with
  | stay =>
      obtain rfl : '{' :: inner = w := List.append_cancel_right (htext.trans hback.symm)
      simp at hw
  | part hblank haction hnext hlevel hrest =>
      subst htext hback
      rw [List.cons_append, skipBlank_brace] at hblank
      obtain ⟨rfl, rfl⟩ := List.cons.inj hblank
      cases readAction_iff.1 haction with
      | again hsign _ => simp [repetitionSigns] at hsign
      | @counted counts _ after hcounts hlazy =>
          have hafter := (readLazy_leaves hlazy).suffix.trans (skipBlank_suffix state.verbose after)
          obtain ⟨m, rfl, -⟩ := exists_front_of_suffix
            ((List.suffix_cons _ _).trans (readCounts_suffix hcounts)) (hrest.suffix.trans hafter)
          exact ⟨counts, m, hcounts⟩
      | atom hc _ => exact absurd (by decide) hc

/-- A run up to a closing parenthesis reads the same before the end or another parenthesis. -/
theorem Progress.Reads.before_stop {level : Nat} {state final : Progress} {t w x x' : List Char}
    (hx' : Stops x') (hw : w.head? ≠ some '{')
    (h : Reads level state (t ++ ')' :: x) final (w ++ ')' :: x)) :
    Reads level state (t ++ x') final (w ++ x') := by
  generalize htext : t ++ ')' :: x = text at h
  generalize hback : w ++ ')' :: x = back at h
  induction h generalizing t with
  | stay =>
      obtain rfl : t = w := List.append_cancel_right (htext.trans hback.symm)
      exact .stay _ _
  | @part state next final c text inner rest back action hblank haction hnext hlevel hrest ih =>
      subst htext hback
      have hrest' := readAction_suffix haction
      obtain ⟨m, rfl, hblank', -⟩ := exists_front_behind (.closing hx') hblank
        (hrest.suffix.trans hrest')
      obtain ⟨n, rfl⟩ := exists_front hrest' (by
        have hlen := hrest.suffix.length_le
        simp only [List.length_append] at hlen
        omega)
      have hcounts : (∃ part, action = .push part) → CountsFollow state.verbose n (')' :: x) := by
        rintro ⟨part, rfl⟩
        cases hnext
        exact hrest.countsFollow hw
      exact .part hblank' (readAction_local (t := c :: m) (.closing hx') hcounts haction) hnext
        hlevel (ih rfl rfl)

/-! ## Runs and complete readings -/

theorem readParts_of_reads {level steps : Nat} {state final : Progress} {text back : List Char}
    (h : state.Reads level text final back) (hback : skipBlank final.verbose back = [])
    (hsteps : text.length ≤ steps) : readParts steps state text = .ok final := by
  induction h generalizing steps with
  | stay state text =>
      cases steps with
      | zero => rfl
      | succ steps => simp [readParts, hback]
  | @part state next final c text inner rest back action hblank haction hnext hlevel hrest ih =>
      have hblank' := length_skipBlank_le state.verbose text
      have hrest' := (readAction_suffix haction).length_le
      rw [hblank, List.length_cons] at hblank'
      obtain ⟨steps, rfl⟩ : ∃ more, steps = more + 1 := ⟨steps - 1, by omega⟩
      have hpart : readPart state (c :: inner) = .ok (next, rest) := by
        rw [readPart_eq, haction]
        simp [Except.bind, runAction, hnext, Except.map]
      simp only [readParts, hblank, hpart]
      exact ih hback (by omega)

theorem reads_of_readParts {steps : Nat} {state final : Progress} {text : List Char}
    (h : readParts steps state text = .ok final) (hsteps : text.length ≤ steps) :
    ∃ back, state.Reads 0 text final back ∧ skipBlank final.verbose back = [] := by
  induction steps generalizing state text with
  | zero =>
      obtain rfl : text = [] := List.length_eq_zero_iff.1 (by omega)
      cases h
      exact ⟨[], .stay _ _, by cases final.verbose <;> rfl⟩
  | succ steps ih =>
      rw [readParts] at h
      split at h
      · next hblank =>
          cases h
          exact ⟨text, .stay _ _, hblank⟩
      · next hne =>
          cases hblank : skipBlank state.verbose text with
          | nil => exact absurd hblank hne
          | cons c inner =>
              rw [hblank, readPart_eq] at h
              split at h
              · cases h
              · next next rest hpart =>
                  obtain ⟨⟨action, after⟩, haction, hrun⟩ := except_bind_eq_ok hpart
                  obtain ⟨_, hnext, hread⟩ := except_map_eq_ok hrun
                  obtain ⟨rfl, rfl⟩ := Prod.mk.inj hread
                  have hlen := length_skipBlank_le state.verbose text
                  have hrest := (readAction_suffix haction).length_le
                  rw [hblank, List.length_cons] at hlen
                  obtain ⟨back, hreads, hback⟩ := ih h (by omega)
                  exact ⟨back, .part hblank haction hnext (Nat.zero_le _) hreads, hback⟩

end LogPattern.Regex
