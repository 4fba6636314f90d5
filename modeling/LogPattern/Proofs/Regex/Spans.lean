import LogPattern.Proofs.Regex.Finding
import LogPattern.Proofs.Regex.WholeMatch

/-!
# Spans of groups

A program opens and closes its groups like brackets: whichever way leads to a step, the
same groups are open there, and none is open at the end.  So the last mark of a group that
took part is the one of its end.  Marks are set on the way through a text, each no earlier
than those before it, and this makes the span of every group a part of the text.
-/

namespace LogPattern.Regex

/-! ## Open groups -/

/--
The step agrees with the groups that are open at every place of its program, the innermost
first.
-/
inductive Step.Nests (opens : List (List Nat)) (i : Nat) : Step → Prop
  | char {groups : List Nat} {set : CodeSet} (here : opens[i]? = some groups)
      (next : opens[i + 1]? = some groups) : Step.Nests opens i (.char set)
  | look {groups : List Nat} {condition : Look} (here : opens[i]? = some groups)
      (next : opens[i + 1]? = some groups) : Step.Nests opens i (.look condition)
  | opening {groups : List Nat} {group : Nat} (here : opens[i]? = some groups)
      (next : opens[i + 1]? = some (group :: groups)) : Step.Nests opens i (.mark (2 * group))
  | closing {groups : List Nat} {group : Nat} (here : opens[i]? = some (group :: groups))
      (next : opens[i + 1]? = some groups) : Step.Nests opens i (.mark (2 * group + 1))
  | split {groups : List Nat} {first second : Nat} (here : opens[i]? = some groups)
      (hfirst : opens[first]? = some groups) (hsecond : opens[second]? = some groups) :
      Step.Nests opens i (.split first second)
  | jump {groups : List Nat} {target : Nat} (here : opens[i]? = some groups)
      (htarget : opens[target]? = some groups) : Step.Nests opens i (.jump target)
  | accept (here : opens[i]? = some []) : Step.Nests opens i .accept

structure Program.Nests (program : Program) (opens : List (List Nat)) : Prop where
  start : opens[0]? = some []
  steps : ∀ (i : Nat) (step : Step), program[i]? = some step → step.Nests opens i

theorem getElem?_of_isPrefix {α : Type} {front whole : List α} (h : front <+: whole) {i : Nat}
    {a : α} (hi : front[i]? = some a) : whole[i]? = some a := by
  obtain ⟨back, rfl⟩ := h
  rw [List.getElem?_append_left (List.getElem?_eq_some_iff.1 hi).1, hi]

theorem Step.Nests.mono {opens opens' : List (List Nat)} {i : Nat} {step : Step}
    (h : step.Nests opens i) (hfront : opens <+: opens') : step.Nests opens' i := by
  have keep {j : Nat} {groups : List Nat} (hj : opens[j]? = some groups) :
      opens'[j]? = some groups := getElem?_of_isPrefix hfront hj
  cases h with
  | char here next => exact .char (keep here) (keep next)
  | look here next => exact .look (keep here) (keep next)
  | opening here next => exact .opening (keep here) (keep next)
  | closing here next => exact .closing (keep here) (keep next)
  | split here hfirst hsecond => exact .split (keep here) (keep hfirst) (keep hsecond)
  | jump here htarget => exact .jump (keep here) (keep htarget)
  | accept here => exact .accept (keep here)

namespace Program

variable {opens : List (List Nat)} {pending groups : List Nat} {code : Program} {i : Nat}

/--
Code that is being emitted: its steps agree with the open groups but for those that are set
later, and `groups` are open at its end.
-/
structure Emitting (opens : List (List Nat)) (pending groups : List Nat) (code : Program) :
    Prop where
  length : opens.length = code.size + 1
  steps : ∀ i step, code[i]? = some step → i ∈ pending ∨ step.Nests opens i
  last : opens[code.size]? = some groups

def GoesOn (opens : List (List Nat)) (pending groups : List Nat) (code : Program) : Prop :=
  ∃ opens', opens <+: opens' ∧ Emitting opens' pending groups code

namespace Emitting

theorem goesOn (h : Emitting opens pending groups code) : GoesOn opens pending groups code :=
  ⟨opens, List.prefix_refl _, h⟩

theorem here (h : Emitting opens pending groups code) (after : List Nat) :
    (opens ++ [after])[code.size]? = some groups :=
  getElem?_of_isPrefix (List.prefix_append _ _) h.last

theorem next (h : Emitting opens pending groups code) (after : List Nat) :
    (opens ++ [after])[code.size + 1]? = some after := by
  rw [← h.length, List.getElem?_concat_length]

theorem push {after : List Nat} {step : Step} (h : Emitting opens pending groups code)
    (hstep : code.size ∈ pending ∨ step.Nests (opens ++ [after]) code.size) :
    Emitting (opens ++ [after]) pending after (code.push step) where
  length := by simp [h.length]
  steps i other hi := by
    rw [Array.getElem?_push] at hi
    split at hi
    · next heq =>
        cases hi
        exact heq ▸ hstep
    · exact (h.steps i other hi).imp_right (·.mono (List.prefix_append _ _))
  last := by rw [Array.size_push, h.next after]

theorem mono {pending' : List Nat} (h : Emitting opens pending groups code)
    (hpending : pending ⊆ pending') : Emitting opens pending' groups code where
  length := h.length
  steps i step hi := (h.steps i step hi).imp_left (hpending ·)
  last := h.last

theorem reserve (h : Emitting opens pending groups code) :
    Emitting (opens ++ [groups]) (code.size :: pending) groups (Program.reserve code) :=
  (h.mono (List.subset_cons_self _ _)).push (.inl List.mem_cons_self)

theorem set {step : Step} (h : Emitting opens (i :: pending) groups code)
    (hstep : step.Nests opens i) : Emitting opens pending groups (code.setIfInBounds i step) where
  length := by rw [Array.size_setIfInBounds, h.length]
  steps j other hj := by
    rw [Array.getElem?_setIfInBounds] at hj
    split at hj
    · next heq =>
        split at hj
        · cases hj
          exact .inr (heq ▸ hstep)
        · cases hj
    · next hne =>
        rcases h.steps j other hj with hmem | hnests
        · exact .inl ((List.mem_cons.1 hmem).resolve_left (Ne.symm hne))
        · exact .inr hnests
  last := by rw [Array.size_setIfInBounds, h.last]

theorem setSplit {body exit : Nat} {open_ : List Nat} (greedy : Bool)
    (h : Emitting opens (i :: pending) groups code) (here : opens[i]? = some open_)
    (hbody : opens[body]? = some open_) (hexit : opens[exit]? = some open_) :
    Emitting opens pending groups (Program.setSplit code i body exit greedy) := by
  cases greedy with
  | true => exact h.set (.split here hbody hexit)
  | false => exact h.set (.split here hexit hbody)

theorem foldl {set : Program → Nat → Program} {spots : List Nat}
    (h : Emitting opens (spots ++ pending) groups code)
    (hset : ∀ spot ∈ spots, ∀ rest code', code'.size = code.size →
      Emitting opens (spot :: rest) groups code' →
        Emitting opens rest groups (set code' spot) ∧ (set code' spot).size = code.size) :
    Emitting opens pending groups (spots.foldl set code) := by
  suffices hfold : ∀ code' : Program, code'.size = code.size →
      Emitting opens (spots ++ pending) groups code' →
        Emitting opens pending groups (spots.foldl set code') from hfold code rfl h
  clear h
  induction spots with
  | nil => exact fun _ _ h => h
  | cons spot spots ih =>
      intro code' hsize h
      obtain ⟨hfirst, hsize'⟩ := hset spot List.mem_cons_self _ _ hsize h
      exact ih (fun other hother => hset other (List.mem_cons_of_mem _ hother)) _ hsize' hfirst

end Emitting

namespace GoesOn

theorem trans {opens' : List (List Nat)} (hfront : opens <+: opens')
    (h : GoesOn opens' pending groups code) : GoesOn opens pending groups code := by
  obtain ⟨opens'', hfront', h⟩ := h
  exact ⟨opens'', hfront.trans hfront', h⟩

/-- Code is emitted as often as it is repeated. -/
theorem repeated {emit : Program → Program} (h : Emitting opens pending groups code)
    (hemit : ∀ opens pending code, Emitting opens pending groups code →
      GoesOn opens pending groups (emit code)) (count : Nat) :
    GoesOn opens pending groups (Nat.repeat emit count code) := by
  induction count with
  | zero => exact h.goesOn
  | succ count ih =>
      obtain ⟨opens', hfront, hcopies⟩ := ih
      exact (hemit _ _ _ hcopies).trans hfront

/-- Optional copies are emitted, each behind a split that is set later. -/
theorem optional {emit : Program → Program} (h : Emitting opens pending groups code)
    (hemit : ∀ opens pending code, Emitting opens pending groups code →
      GoesOn opens pending groups (emit code)) (count : Nat) :
    let made := Nat.repeat (fun (code, splits) => (emit (reserve code), code.size :: splits)) count
      (code, ([] : List Nat))
    ∃ opens', opens <+: opens' ∧ Emitting opens' (made.2 ++ pending) groups made.1 ∧
      ∀ split ∈ made.2, opens'[split]? = some groups ∧ opens'[split + 1]? = some groups := by
  induction count with
  | zero => exact ⟨opens, List.prefix_refl _, h, fun _ hnone => nomatch hnone⟩
  | succ count ih =>
      obtain ⟨opens', hfront, hmade, hsplits⟩ := ih
      obtain ⟨opens'', hfront', hcopy⟩ := hemit _ _ _ hmade.reserve
      have hkept := (List.prefix_append opens' [groups]).trans hfront'
      refine ⟨opens'', hfront.trans hkept, hcopy, fun split hsplit => ?_⟩
      rcases List.mem_cons.1 hsplit with rfl | hsplit
      · exact ⟨getElem?_of_isPrefix hfront' (hmade.here groups),
          getElem?_of_isPrefix hfront' (hmade.next groups)⟩
      · obtain ⟨hhere, hnext⟩ := hsplits split hsplit
        exact ⟨getElem?_of_isPrefix hkept hhere, getElem?_of_isPrefix hkept hnext⟩

end GoesOn

end Program

namespace Expr

open Program

variable {opens : List (List Nat)} {pending groups : List Nat} {code : Program}

theorem goesOn_repeated {operand : Expr} (h : Emitting opens pending groups code)
    (hoperand : ∀ opens pending code, Emitting opens pending groups code →
      GoesOn opens pending groups (operand.emit code))
    (least : Nat) (most : Option Nat) (greedy : Bool) :
    GoesOn opens pending groups ((repeated least most greedy operand).emit code) := by
  cases most with
  | some most =>
      rw [emit]
      obtain ⟨opens₁, hfront₁, hleast⟩ := GoesOn.repeated h hoperand least
      obtain ⟨opens₂, hfront₂, hmade, hsplits⟩ := GoesOn.optional hleast hoperand (most - least)
      refine ⟨opens₂, hfront₁.trans hfront₂, hmade.foldl fun split hsplit rest code' hsize h' =>
        ⟨?_, by simp only [Program.setSplit, Array.size_setIfInBounds, hsize]⟩⟩
      obtain ⟨hhere, hnext⟩ := hsplits split hsplit
      exact h'.setSplit greedy hhere hnext hmade.last
  | none =>
      cases least with
      | succ more =>
          rw [emit]
          obtain ⟨opens₁, hfront₁, hfirst⟩ := GoesOn.repeated h hoperand more
          obtain ⟨opens₂, hfront₂, hlast⟩ := hoperand _ _ _ hfirst
          have hfront := List.prefix_append opens₂ [groups]
          refine .trans (hfront₁.trans (hfront₂.trans hfront)) (Emitting.goesOn ?_)
          exact hlast.reserve.setSplit greedy (hlast.here groups)
            (getElem?_of_isPrefix (hfront₂.trans hfront) hfirst.last) (hlast.next groups)
      | zero =>
          rw [emit]
          have hfront := List.prefix_append opens [groups]
          obtain ⟨opens₁, hfront₁, hbody⟩ := hoperand _ _ _ h.reserve
          have hentry := getElem?_of_isPrefix hfront₁ (h.here groups)
          have hbehind := getElem?_of_isPrefix hfront₁ (h.next groups)
          have hfront₂ := List.prefix_append opens₁ [groups]
          refine .trans (hfront.trans (hfront₁.trans hfront₂)) ?_
          split
          · have hagain := hbody.reserve.setSplit greedy (hbody.here groups)
              (getElem?_of_isPrefix hfront₂ hbehind) (hbody.next groups)
            exact (hagain.setSplit greedy (getElem?_of_isPrefix hfront₂ hentry)
              (getElem?_of_isPrefix hfront₂ hbehind) (hbody.next groups)).goesOn
          · have hjump := hbody.push (.inr (.jump (hbody.here groups)
              (getElem?_of_isPrefix hfront₂ hentry)))
            exact (hjump.setSplit greedy (getElem?_of_isPrefix hfront₂ hentry)
              (getElem?_of_isPrefix hfront₂ hbehind) hjump.last).goesOn

mutual
/-- An expression opens and closes its groups itself. -/
theorem goesOn_emit {opens : List (List Nat)} {pending groups : List Nat} {code : Program}
    (e : Expr) (h : Emitting opens pending groups code) :
    GoesOn opens pending groups (e.emit code) := by
  cases e with
  | empty =>
      rw [emit]
      exact h.goesOn
  | chars set =>
      rw [emit]
      exact .trans (List.prefix_append _ _)
        (h.push (.inr (.char (h.here groups) (h.next groups)))).goesOn
  | look condition =>
      rw [emit]
      exact .trans (List.prefix_append _ _)
        (h.push (.inr (.look (h.here groups) (h.next groups)))).goesOn
  | capture index content =>
      rw [emit]
      have hopen := h.push (.inr (.opening (h.here (index :: groups)) (h.next _)))
      obtain ⟨opens', hfront, hcontent⟩ := goesOn_emit content hopen
      have hclose := hcontent.push (.inr (.closing (hcontent.here groups) (hcontent.next _)))
      exact .trans ((List.prefix_append _ _).trans (hfront.trans (List.prefix_append _ _)))
        hclose.goesOn
  | repeated least most greedy operand =>
      exact goesOn_repeated h (fun _ _ _ h => goesOn_emit operand h) least most greedy
  | choice branches =>
      rw [emit]
      exact goesOn_emitChoice branches h (by simp) (fun _ => rfl)
  | sequence items =>
      rw [emit]
      exact goesOn_emitAll items h

theorem goesOn_emitAll {opens : List (List Nat)} {pending groups : List Nat} {code : Program}
    (es : List Expr) (h : Emitting opens pending groups code) :
    GoesOn opens pending groups (emitAll code es) := by
  cases es with
  | nil =>
      rw [emitAll]
      exact h.goesOn
  | cons e rest =>
      rw [emitAll]
      obtain ⟨opens', hfront, hfirst⟩ := goesOn_emit e h
      exact .trans hfront (goesOn_emitAll rest hfirst)

theorem goesOn_emitChoice {opens : List (List Nat)} {pending groups exits : List Nat}
    {code : Program} (branches : List Expr) (h : Emitting opens (exits ++ pending) groups code)
    (hexits : ∀ exit ∈ exits, opens[exit]? = some groups) (hnone : branches = [] → exits = []) :
    GoesOn opens pending groups (emitChoice code exits branches) := by
  match branches with
  | [] =>
      rw [emitChoice]
      obtain rfl := hnone rfl
      exact h.goesOn
  | [last] =>
      rw [emitChoice]
      obtain ⟨opens', hfront, hlast⟩ := goesOn_emit last h
      refine ⟨opens', hfront, hlast.foldl fun exit hexit rest code' hsize h' =>
        ⟨?_, by rw [Array.size_setIfInBounds, hsize]⟩⟩
      exact h'.set (.jump (getElem?_of_isPrefix hfront (hexits exit hexit)) hlast.last)
  | branch :: second :: rest =>
      rw [emitChoice_cons (List.cons_ne_nil second rest)]
      obtain ⟨opens₁, hfront₁, hbranch⟩ := goesOn_emit branch h.reserve
      have hfront₂ := List.prefix_append opens₁ [groups]
      have hkept := hfront₁.trans hfront₂
      have hentry := getElem?_of_isPrefix hkept (h.here groups)
      have hbehind := getElem?_of_isPrefix hkept (h.next groups)
      -- the exit is reserved last, but the entry is set first
      have hreserved : Emitting (opens₁ ++ [groups]) (code.size ::
          (branch.emit (reserve code)).size :: (exits ++ pending)) groups
          (reserve (branch.emit (reserve code))) := by
        refine hbranch.reserve.mono fun i hi => ?_
        simp only [List.mem_cons] at hi ⊢
        exact or_left_comm.1 hi
      have hset := hreserved.setSplit true hentry hbehind hbranch.reserve.last
      refine .trans ((List.prefix_append opens [groups]).trans hkept)
        (goesOn_emitChoice (second :: rest) hset (fun exit hexit => ?_) (by simp))
      rcases List.mem_cons.1 hexit with rfl | hexit
      · exact hbranch.here groups
      · exact getElem?_of_isPrefix ((List.prefix_append opens [groups]).trans hkept)
          (hexits exit hexit)
end

/-- At every step of a program the same groups are open, whichever way leads there. -/
theorem exists_nests (e : Expr) : ∃ opens, Program.Nests e.program opens := by
  have hempty : Emitting [[]] [] [] #[] := ⟨rfl, by simp, rfl⟩
  obtain ⟨opens, hfront, hwhole⟩ := goesOn_emit (capture 0 e) hempty
  refine ⟨opens ++ [[]], getElem?_of_isPrefix (hfront.trans (List.prefix_append _ _)) rfl,
    fun i step hi => ?_⟩
  have hend := hwhole.push (.inr (.accept (hwhole.here [])))
  exact (hend.steps i step hi).resolve_left (by simp)

end Expr

/-! ## Marks in order -/

namespace Marks

variable {marks : Marks} {position group : Nat} {groups : List Nat}

/-- Every mark has been set no earlier than those before it, and none beyond a position. -/
structure Timed (position : Nat) (marks : Marks) : Prop where
  sorted : marks.Pairwise fun later earlier => earlier.2 ≤ later.2
  upTo : ∀ mark ∈ marks, mark.2 ≤ position

def Closed (groups : List Nat) (marks : Marks) : Prop :=
  ∀ group ∉ groups, ∀ mark, marks.find? (·.1 / 2 = group) = some mark → mark.1 = 2 * group + 1

theorem Timed.mono {position' : Nat} (h : marks.Timed position) (hle : position ≤ position') :
    marks.Timed position' :=
  ⟨h.sorted, fun mark hmark => (h.upTo mark hmark).trans hle⟩

theorem Timed.cons (h : marks.Timed position) (slot : Nat) :
    Timed position ((slot, position) :: marks) where
  sorted := List.pairwise_cons.2 ⟨h.upTo, h.sorted⟩
  upTo := List.forall_mem_cons.2 ⟨Nat.le_refl _, h.upTo⟩

theorem Closed.opening (h : marks.Closed groups) (group position : Nat) :
    Closed (group :: groups) ((2 * group, position) :: marks) := by
  intro other hother mark hmark
  obtain ⟨hne, hother⟩ := List.ne_and_not_mem_of_not_mem_cons hother
  have hslot : 2 * group / 2 ≠ other := by omega
  rw [List.find?_cons_of_neg (by simpa using hslot)] at hmark
  exact h other hother mark hmark

theorem Closed.closing (h : marks.Closed (group :: groups)) (position : Nat) :
    Closed groups ((2 * group + 1, position) :: marks) := by
  intro other hother mark hmark
  by_cases hsame : group = other
  · subst hsame
    rw [List.find?_cons_of_pos (by simp; omega)] at hmark
    cases hmark
    rfl
  · have hslot : (2 * group + 1) / 2 ≠ other := by omega
    rw [List.find?_cons_of_neg (by simpa using hslot)] at hmark
    refine h other (fun hmem => ?_) mark hmark
    rcases List.mem_cons.1 hmem with heq | hmem
    · exact hsame heq.symm
    · exact hother hmem

structure Complete (position : Nat) (marks : Marks) : Prop where
  timed : marks.Timed position
  closed : marks.Closed []

theorem Complete.mono {position' : Nat} (h : marks.Complete position) (hle : position ≤ position') :
    marks.Complete position' :=
  ⟨h.timed.mono hle, h.closed⟩

/-- Where no group is open, the marks of a group enclose a part of what has been passed. -/
theorem span_of_closed (htimed : marks.Timed position) (hclosed : marks.Closed [])
    {start stop : Nat} (hstart : (marks.find? (·.1 = 2 * group)).map (·.2) = some start)
    (hstop : (marks.find? (·.1 = 2 * group + 1)).map (·.2) = some stop) :
    start ≤ stop ∧ stop ≤ position := by
  obtain ⟨first, hfirst, rfl⟩ := Option.map_eq_some_iff.1 hstart
  obtain ⟨last, hlast, rfl⟩ := Option.map_eq_some_iff.1 hstop
  have hfirstSlot : first.1 = 2 * group := by simpa using List.find?_some hfirst
  refine ⟨?_, htimed.upTo last (List.mem_of_find?_eq_some hlast)⟩
  -- the latest mark of the group is the one of its end, so its start is behind it in the list
  have hgroup : (marks.find? (·.1 / 2 = group)).isSome = true := by
    rw [List.find?_isSome]
    exact ⟨first, List.mem_of_find?_eq_some hfirst, by simp [hfirstSlot]⟩
  obtain ⟨latest, hlatest⟩ := Option.isSome_iff_exists.1 hgroup
  have hlatestSlot := hclosed group (by simp) latest hlatest
  obtain ⟨hpos, front, back, rfl, hfront⟩ := List.find?_eq_some_iff_append.1 hlatest
  have hsame : latest = last := by
    have hskip : (front ++ latest :: back).find? (·.1 = 2 * group + 1) = some latest := by
      refine List.find?_eq_some_iff_append.2 ⟨by simpa using hlatestSlot, front, back, rfl,
        fun mark hmark => ?_⟩
      have hother : mark.1 / 2 ≠ group := by simpa using hfront mark hmark
      simp only [Bool.not_eq_true', decide_eq_false_iff_not]
      omega
    exact Option.some.inj (hskip.symm.trans hlast)
  subst hsame
  have hmem : first ∈ back := by
    rcases List.mem_append.1 (List.mem_of_find?_eq_some hfirst) with hmem | hmem
    · have hother : first.1 / 2 ≠ group := by simpa using hfront first hmem
      omega
    · rcases List.mem_cons.1 hmem with rfl | hmem
      · omega
      · exact hmem
  exact (List.pairwise_cons.1 (List.pairwise_append.1 htimed.sorted).2.1).1 first hmem

end Marks

/-- A way with its marks in order, that has closed the groups that are not open at its step. -/
structure Way.Marked (opens : List (List Nat)) (position : Nat) (way : Way) : Prop where
  timed : way.marks.Timed position
  closed : ∃ groups, opens[way.step]? = some groups ∧ way.marks.Closed groups

section Search

variable {program : Program} {opens : List (List Nat)} {place : Place} {position rounds : Nat}
  {pending : List Way} {reached : Array Nat} {waiting : Array Way} {frontier : Frontier}
  {way : Way} {step : Step}

namespace Way.Marked

theorem start (hnests : Program.Nests program opens) (position : Nat) :
    Marked opens position ⟨0, []⟩ :=
  ⟨⟨.nil, by simp⟩, [], hnests.start, by simp [Marks.Closed]⟩

/-- Every way that goes on from a step is marked as it should be. -/
theorem goOn (h : way.Marked opens position) (hstep : step.Nests opens way.step) {next : Way}
    (hnext : next ∈ step.goOn place position way) : next.Marked opens position := by
  obtain ⟨groups, hgroups, hclosed⟩ := h.closed
  have same {groups' : List Nat} (here : opens[way.step]? = some groups') : groups' = groups :=
    Option.some.inj (here.symm.trans hgroups)
  cases hstep with
  | char => cases hnext
  | accept => cases hnext
  | look here next =>
      rw [Step.goOn] at hnext
      split at hnext
      · obtain rfl := List.mem_singleton.1 hnext
        exact ⟨h.timed, groups, same here ▸ next, hclosed⟩
      · cases hnext
  | @opening _ group here next =>
      obtain rfl := List.mem_singleton.1 hnext
      exact ⟨h.timed.cons _, group :: groups, same here ▸ next, hclosed.opening group position⟩
  | @closing outer group here next =>
      obtain rfl := List.mem_singleton.1 hnext
      have hclosed : way.marks.Closed (group :: outer) := same here ▸ hclosed
      exact ⟨h.timed.cons _, outer, next, hclosed.closing position⟩
  | split here hfirst hsecond =>
      simp only [Step.goOn, List.mem_cons, List.not_mem_nil, or_false] at hnext
      obtain rfl | rfl := hnext
      · exact ⟨h.timed, groups, same here ▸ hfirst, hclosed⟩
      · exact ⟨h.timed, groups, same here ▸ hsecond, hclosed⟩
  | jump here htarget =>
      obtain rfl := List.mem_singleton.1 hnext
      exact ⟨h.timed, groups, same here ▸ htarget, hclosed⟩

theorem take {set : CodeSet} (h : way.Marked opens position)
    (hstep : (Step.char set).Nests opens way.step) :
    Marked opens (position + 1) ⟨way.step + 1, way.marks⟩ := by
  obtain ⟨groups, hgroups, hclosed⟩ := h.closed
  cases hstep with
  | char here next =>
      obtain rfl := Option.some.inj (here.symm.trans hgroups)
      exact ⟨h.timed.mono (Nat.le_succ _), _, next, hclosed⟩

theorem accept (h : way.Marked opens position) (hstep : Step.accept.Nests opens way.step) :
    way.marks.Closed [] := by
  obtain ⟨groups, hgroups, hclosed⟩ := h.closed
  cases hstep with
  | accept here =>
      obtain rfl := Option.some.inj (here.symm.trans hgroups)
      exact hclosed

end Way.Marked

/-- What is waiting in the end is marked as it should be if all that was pending is. -/
theorem Follows.marked (h : Follows program place position pending reached waiting frontier)
    (hnests : Program.Nests program opens) (hwaiting : ∀ way ∈ waiting, way.Marked opens position)
    (hpending : ∀ way ∈ pending, way.Marked opens position) :
    ∀ way ∈ frontier.waiting, way.Marked opens position := by
  induction h with
  | done => exact hwaiting
  | drop _ _ ih => exact ih hwaiting fun way hway => hpending way (List.mem_cons_of_mem _ hway)
  | @take way step pending reached waiting frontier hstep _ _ ih =>
      have hway : way.Marked opens position := hpending way List.mem_cons_self
      refine ih (fun other hother => ?_) fun other hother => ?_
      · split at hother
        · rcases Array.mem_push.1 hother with hother | rfl
          · exact hwaiting other hother
          · exact hway
        · exact hwaiting other hother
      · rcases List.mem_append.1 hother with hnext | hother
        · exact hway.goOn (hnests.steps _ _ hstep) hnext
        · exact hpending other (List.mem_cons_of_mem _ hother)

structure Frontier.Marked (program : Program) (opens : List (List Nat)) (position : Nat)
    (frontier : Frontier) : Prop where
  size : frontier.reached.size = program.size
  waits : ∀ way ∈ frontier.waiting, way.Marked opens position

namespace Frontier.Marked

theorem add (h : frontier.Marked program opens position) (hnests : Program.Nests program opens)
    (hway : way.Marked opens position) (place : Place) :
    (frontier.add program place position way).Marked program opens position := by
  have hfollows := follows_add place position way h.size
  exact ⟨hfollows.size_eq h.size, hfollows.marked hnests h.waits (by simpa using hway)⟩

theorem next (h : frontier.Marked program opens position) :
    Marked program opens (position + 1) ⟨frontier.reached, #[]⟩ :=
  ⟨h.size, by simp⟩

end Frontier.Marked

/-- A character is taken along ways that wait before it; one that has arrived is complete. -/
theorem advance_marked {c : Char} {ways : List Way} (hnests : Program.Nests program opens)
    (hways : ∀ way ∈ ways, way.Marked opens position)
    (h : frontier.Marked program opens (position + 1)) (place : Place) :
    (advance program c place (position + 1) ways frontier).1.Marked program opens (position + 1) ∧
      ∀ marks, (advance program c place (position + 1) ways frontier).2 = some marks →
        marks.Complete position := by
  induction ways generalizing frontier with
  | nil => exact ⟨h, by simp [advance]⟩
  | cons way rest ih =>
      have hway : way.Marked opens position := hways way List.mem_cons_self
      have hrest : ∀ way ∈ rest, way.Marked opens position :=
        fun way hway => hways way (List.mem_cons_of_mem _ hway)
      rw [advance]
      split
      · next set hstep =>
          split
          · exact ih hrest (h.add hnests (hway.take (hnests.steps _ _ hstep)) place)
          · exact ih hrest h
      · next hstep =>
          refine ⟨h, fun marks hmarks => ?_⟩
          cases hmarks
          exact ⟨hway.timed, hway.accept (hnests.steps _ _ hstep)⟩
      · exact ih hrest h

theorem arrived?_complete {ways : List Way} {marks : Marks} (hnests : Program.Nests program opens)
    (hways : ∀ way ∈ ways, way.Marked opens position) (h : arrived? program ways = some marks) :
    marks.Complete position := by
  obtain ⟨way, hway, rfl⟩ := Option.map_eq_some_iff.1 h
  have hmarked := hways way (List.mem_of_find?_eq_some hway)
  have haccept := List.find?_some hway
  cases hstep : program[way.step]? with
  | none => simp [hstep] at haccept
  | some step =>
      cases step with
      | accept => exact ⟨hmarked.timed, hmarked.accept (hnests.steps _ _ hstep)⟩
      | _ => simp [hstep] at haccept

theorem Frontier.Marked.begin (h : frontier.Marked program opens position)
    (hnests : Program.Nests program opens) (place : Place) (best : Option Marks) :
    Frontier.Marked program opens position
      (if best.isNone then frontier.add program place position ⟨0, []⟩ else frontier) := by
  split
  · exact h.add hnests (.start hnests position) place
  · exact h

theorem searchFrom_complete {before : Option Char} {best : Option Marks} {text : List Char}
    {marks : Marks} (hnests : Program.Nests program opens)
    (h : frontier.Marked program opens position)
    (hbest : ∀ marks, best = some marks → marks.Complete position)
    (hfound : searchFrom program position before best frontier text = some marks) :
    marks.Complete (position + text.length) := by
  induction text generalizing position before best frontier with
  | nil =>
      rw [searchFrom] at hfound
      rcases Option.or_eq_some_iff.1 hfound with harrived | ⟨-, hfound⟩
      · have hbegun := h.begin hnests ⟨before, none⟩ best
        exact arrived?_complete hnests
          (fun way hway => hbegun.waits way (Array.mem_toList_iff.1 hway)) harrived
      · exact hbest marks hfound
  | cons c rest ih =>
      have hbegun := h.begin hnests ⟨before, some c⟩ best
      obtain ⟨hnext, harrived⟩ := advance_marked (c := c) hnests
        (fun way hway => hbegun.waits way (Array.mem_toList_iff.1 hway)) hbegun.next
        ⟨some c, rest.head?⟩
      rw [searchFrom] at hfound
      rw [List.length_cons, Nat.add_comm rest.length, ← Nat.add_assoc]
      dsimp only at hfound
      generalize (if best.isNone then frontier.add program ⟨before, some c⟩ position ⟨0, []⟩
        else frontier) = begun at hnext harrived hfound
      split at hfound
      · exact (hbest marks hfound).mono (by omega)
      · refine ih hnext (fun marks hmarks => ?_) hfound
        rcases Option.or_eq_some_iff.1 hmarks with hmarks | ⟨-, hmarks⟩
        · exact (harrived marks hmarks).mono (Nat.le_succ _)
        · exact (hbest marks hmarks).mono (Nat.le_succ _)

/-- The marks of a match have been set within the text, and all groups have been closed. -/
theorem search_complete {text : List Char} {marks : Marks} (hnests : Program.Nests program opens)
    (hfound : search program text = some marks) : marks.Complete text.length := by
  have hstart : Frontier.Marked program opens 0 ⟨Array.replicate program.size 0, #[]⟩ :=
    ⟨Array.size_replicate, by simp⟩
  have hcomplete := searchFrom_complete hnests hstart (by simp) hfound
  rwa [Nat.zero_add] at hcomplete

end Search

/-! ## Spans -/

@[simp] theorem length_spansOf (captureCount : Nat) (marks : Marks) :
    (spansOf captureCount marks).length = captureCount + 1 := by
  simp [spansOf]

theorem spansOf_eq_some_iff {captureCount group : Nat} {marks : Marks} {span : Span} :
    (spansOf captureCount marks)[group]? = some (some span) ↔
      group ≤ captureCount ∧ (marks.find? (·.1 = 2 * group)).map (·.2) = some span.start ∧
        (marks.find? (·.1 = 2 * group + 1)).map (·.2) = some span.stop := by
  by_cases hgroup : group ≤ captureCount
  · have hrange : (List.range (captureCount + 1))[group]? = some group :=
      List.getElem?_range (Nat.lt_succ_of_le hgroup)
    rw [spansOf, List.getElem?_map, hrange, Option.map_some, Option.some.injEq,
      getElem?_slotsOf _ (by omega), getElem?_slotsOf _ (by omega), and_iff_right hgroup]
    generalize (marks.find? (·.1 = 2 * group)).map (·.2) = start
    generalize (marks.find? (·.1 = 2 * group + 1)).map (·.2) = stop
    obtain ⟨first, last⟩ := span
    cases start <;> cases stop <;> simp
  · have hnone : (spansOf captureCount marks)[group]? = none := by
      rw [List.getElem?_eq_none_iff, length_spansOf]
      omega
    rw [hnone]
    simp [hgroup]

/-- The spans that a regular expression finds are parts of the text. -/
theorem span_le_of_captures? {source text : List Char} {regex : Regex}
    {spans : List (Option Span)} {group : Nat} {span : Span} (h : ofText? source = .ok regex)
    (hspans : regex.captures? text = some spans) (hspan : spans[group]? = some (some span)) :
    span.start ≤ span.stop ∧ span.stop ≤ text.length := by
  obtain ⟨-, e, -, -, -, rfl⟩ := ofText?_eq_ok_iff.1 h
  obtain ⟨marks, hmarks, rfl⟩ := Option.map_eq_some_iff.1 hspans
  obtain ⟨opens, hnests⟩ := e.exists_nests
  have hcomplete := search_complete hnests hmarks
  obtain ⟨-, hstart, hstop⟩ := spansOf_eq_some_iff.1 hspan
  exact Marks.span_of_closed hcomplete.timed hcomplete.closed hstart hstop

end LogPattern.Regex
