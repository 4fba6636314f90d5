import LogPattern.Proofs.Regex.Run

/-!
# Runs in other surroundings

What the reader does inside a group does not depend on the groups around it, nor on the
kinds of the groups it has seen.  So a run can be followed from another state that
mirrors the first: the same parts with their groups renamed, in other surroundings.
-/

namespace LogPattern.Regex

/-! ## Renaming groups -/

namespace Tree

mutual
def mapGroups (f : GroupKind → GroupKind) : Tree → Tree
  | .empty => .empty
  | .flags change => .flags change
  | .one atom => .one atom
  | .bracketed negated inner => .bracketed negated inner
  | .repeated counts greedy operand => .repeated counts greedy (operand.mapGroups f)
  | .group kind content => .group (f kind) (content.mapGroups f)
  | .choice branches => .choice (mapGroupsOfAll f branches)
  | .sequence items => .sequence (mapGroupsOfAll f items)

def mapGroupsOfAll (f : GroupKind → GroupKind) : List Tree → List Tree
  | [] => []
  | tree :: rest => tree.mapGroups f :: mapGroupsOfAll f rest
end

theorem mapGroupsOfAll_eq_map (f : GroupKind → GroupKind) (trees : List Tree) :
    mapGroupsOfAll f trees = trees.map (mapGroups f) := by
  induction trees with
  | nil => simp [mapGroupsOfAll]
  | cons tree rest ih => simp [mapGroupsOfAll, ih]

mutual
theorem mapGroups_mapGroups (f f' : GroupKind → GroupKind) (tree : Tree) :
    (tree.mapGroups f).mapGroups f' = tree.mapGroups (f' ∘ f) := by
  cases tree with
  | repeated counts greedy operand => simp [mapGroups, mapGroups_mapGroups f f' operand]
  | group kind content => simp [mapGroups, mapGroups_mapGroups f f' content]
  | choice branches => simp [mapGroups, mapGroupsOfAll_mapGroupsOfAll f f' branches]
  | sequence items => simp [mapGroups, mapGroupsOfAll_mapGroupsOfAll f f' items]
  | _ => simp [mapGroups]

theorem mapGroupsOfAll_mapGroupsOfAll (f f' : GroupKind → GroupKind) (trees : List Tree) :
    mapGroupsOfAll f' (mapGroupsOfAll f trees) = mapGroupsOfAll (f' ∘ f) trees := by
  cases trees with
  | nil => simp [mapGroupsOfAll]
  | cons tree rest =>
      simp [mapGroupsOfAll, mapGroups_mapGroups f f' tree,
        mapGroupsOfAll_mapGroupsOfAll f f' rest]
end

def isDirective : Tree → Bool
  | .flags _ => true
  | _ => false

@[simp] theorem isDirective_mapGroups (f : GroupKind → GroupKind) (tree : Tree) :
    (tree.mapGroups f).isDirective = tree.isDirective := by
  cases tree <;> simp [mapGroups, isDirective]

end Tree

variable {f : GroupKind → GroupKind}

namespace Part

def mapGroups (f : GroupKind → GroupKind) (part : Part) : Part :=
  ⟨part.tree.mapGroups f, part.depth⟩

@[simp] theorem depth_mapGroups (part : Part) : (part.mapGroups f).depth = part.depth := rfl

@[simp] theorem tree_mapGroups (part : Part) :
    (part.mapGroups f).tree = part.tree.mapGroups f := rfl

@[simp] theorem deepest_map_mapGroups (parts : List Part) :
    deepest (parts.map (mapGroups f)) = deepest parts := by
  simp [deepest, List.foldl_map]

theorem trees_map_mapGroups (parts : List Part) :
    (parts.map (mapGroups f)).reverse.map (·.tree) =
      (parts.reverse.map (·.tree)).map (Tree.mapGroups f) := by
  simp [← List.map_reverse, Function.comp_def]

theorem sequence_map_mapGroups (parts : List Part) :
    sequence (parts.map (mapGroups f)) = (sequence parts).mapGroups f := by
  match parts with
  | [] => simp [sequence, mapGroups, Tree.mapGroups]
  | [part] => rfl
  | first :: second :: rest =>
      have htrees := trees_map_mapGroups (f := f) (first :: second :: rest)
      have hdepth := deepest_map_mapGroups (f := f) (first :: second :: rest)
      rw [← Tree.mapGroupsOfAll_eq_map] at htrees
      exact congrArg₂ Part.mk (congrArg Tree.sequence htrees) (congrArg (· + 1) hdepth)

theorem choice_map_mapGroups (earlier : List Part) (last : Part) :
    choice (earlier.map (mapGroups f)) (last.mapGroups f) = (choice earlier last).mapGroups f := by
  unfold choice
  rw [List.isEmpty_map]
  split
  · rfl
  · have htrees := trees_map_mapGroups (f := f) (last :: earlier)
    rw [← Tree.mapGroupsOfAll_eq_map] at htrees
    refine congrArg₂ Part.mk (congrArg Tree.choice htrees) ?_
    rw [deepest_map_mapGroups, depth_mapGroups]

theorem group_mapGroups (kind : GroupKind) (content : Part) :
    group (f kind) (content.mapGroups f) = (group kind content).mapGroups f := by
  simp [group, mapGroups, Tree.mapGroups]

theorem repeated_mapGroups (counts : Counts) (greedy : Bool) (operand : Part) :
    repeated counts greedy (operand.mapGroups f) =
      (repeated counts greedy operand).mapGroups f := by
  simp [repeated, mapGroups, Tree.mapGroups]

theorem checkDepth_mapGroups (part : Part) :
    (part.mapGroups f).checkDepth = part.checkDepth.map (mapGroups f) := by
  unfold checkDepth
  rw [depth_mapGroups]
  split <;> rfl

end Part

/-! ## States in other surroundings -/

def OpenGroup.mapGroups (f : GroupKind → GroupKind) (group : OpenGroup) : OpenGroup :=
  ⟨f group.kind, group.verboseOutside, group.itemsOutside.map (Part.mapGroups f),
    group.branchesOutside.map (Part.mapGroups f)⟩

namespace Progress

theorem repeatLast_eq (state : Progress) (counts : Counts) (greedy : Bool) :
    state.repeatLast counts greedy =
      match state.items with
      | [] => .error .nothingToRepeat
      | last :: items =>
          if last.tree.isDirective then .error .nothingToRepeat
          else
            match (Part.repeated counts greedy last).checkDepth with
            | .error fault => .error fault
            | .ok part => .ok { state with items := part :: items } := by
  unfold repeatLast
  cases state.items with
  | nil => rfl
  | cons last items =>
      dsimp only
      cases last.tree <;> rfl

/--
The second state mirrors the first: above the open groups `base'` instead of `base` it
holds the same parts and open groups, with groups renamed by `f`.
-/
structure Mirrors (f : GroupKind → GroupKind) (base base' : List OpenGroup)
    (state state' : Progress) : Prop where
  verbose : state'.verbose = state.verbose
  items : state'.items = state.items.map (Part.mapGroups f)
  branches : state'.branches = state.branches.map (Part.mapGroups f)
  openGroups : ∃ inner, state.openGroups = inner ++ base ∧
    state'.openGroups = inner.map (OpenGroup.mapGroups f) ++ base'

namespace Mirrors

variable {base base' : List OpenGroup} {state state' next next' : Progress}

theorem content (h : Mirrors f base base' state state') :
    state'.content = state.content.mapGroups f := by
  rw [Progress.content, Progress.content, h.items, h.branches, Part.sequence_map_mapGroups,
    Part.choice_map_mapGroups]

theorem length_openGroups (h : Mirrors f base base' state state') :
    state'.openGroups.length + base.length = state.openGroups.length + base'.length := by
  obtain ⟨inner, hinner, hinner'⟩ := h.openGroups
  rw [hinner, hinner']
  simp only [List.length_append, List.length_map]
  omega

theorem push (h : Mirrors f base base' state state') {part : Part}
    (hpart : part.mapGroups f = part) :
    Mirrors f base base' (state.push part) (state'.push part) where
  verbose := h.verbose
  items := by simp [Progress.push, h.items, hpart]
  branches := h.branches
  openGroups := h.openGroups

theorem setVerbose (h : Mirrors f base base' state state') (verbose : Bool) :
    Mirrors f base base' { state with verbose } { state' with verbose } :=
  ⟨rfl, h.items, h.branches, h.openGroups⟩

theorem nextBranch (h : Mirrors f base base' state state') :
    Mirrors f base base' state.nextBranch state'.nextBranch where
  verbose := h.verbose
  items := rfl
  branches := by
    simp [Progress.nextBranch, h.branches, h.items, Part.sequence_map_mapGroups]
  openGroups := h.openGroups

theorem openGroup (h : Mirrors f base base' state state') {kind : GroupKind}
    {verbose verbose' : Bool} (hverbose : verbose' = verbose)
    (hopen : state.openGroup kind verbose = .ok next)
    (hopen' : state'.openGroup (f kind) verbose' = .ok next') :
    Mirrors f base base' next next' := by
  unfold Progress.openGroup at hopen hopen'
  split at hopen
  · cases hopen
  · split at hopen'
    · cases hopen'
    · cases hopen
      cases hopen'
      obtain ⟨inner, hinner, hinner'⟩ := h.openGroups
      refine ⟨hverbose, rfl, rfl, ⟨kind, state.verbose, state.items, state.branches⟩ :: inner,
        ?_, ?_⟩
      · simp [hinner]
      · simp [hinner', OpenGroup.mapGroups, h.verbose, h.items, h.branches]

theorem count (h : Mirrors f base base' state state') (captures captures' : Nat)
    (names names' : Std.TreeSet String) :
    Mirrors f base base' { state with captures, names }
      { state' with captures := captures', names := names' } :=
  ⟨h.verbose, h.items, h.branches, h.openGroups⟩

theorem openCapture (h : Mirrors f base base' state state') {name name' : Option String}
    (hkind : f (.capture (state.captures + 1) name) = .capture (state'.captures + 1) name')
    (hopen : openCapture state name = .ok next)
    (hopen' : Regex.openCapture state' name' = .ok next') : Mirrors f base base' next next' := by
  unfold Regex.openCapture at hopen hopen'
  dsimp only at hopen hopen'
  split at hopen
  · cases hopen
  · split at hopen'
    · cases hopen'
    · rw [← hkind] at hopen'
      exact (h.count _ _ _ _).openGroup h.verbose hopen hopen'

theorem closeGroup (h : Mirrors f base base' state state')
    (hinside : base.length < state.openGroups.length) :
    Agree (Mirrors f base base') state.closeGroup state'.closeGroup := by
  obtain ⟨inner, hinner, hinner'⟩ := h.openGroups
  cases inner with
  | nil => simp [hinner] at hinside
  | cons group inner =>
      have hpart : Part.group (group.mapGroups f).kind state'.content =
          (Part.group group.kind state.content).mapGroups f := by
        rw [h.content]
        exact Part.group_mapGroups _ _
      unfold Progress.closeGroup
      simp only [hinner, hinner', List.cons_append, List.map_cons, hpart,
        Part.checkDepth_mapGroups]
      cases (Part.group group.kind state.content).checkDepth with
      | error fault => exact .error fault
      | ok part => exact .ok ⟨rfl, rfl, rfl, inner, rfl, rfl⟩

theorem repeatLast (h : Mirrors f base base' state state') (counts : Counts) (greedy : Bool) :
    Agree (Mirrors f base base') (state.repeatLast counts greedy)
      (state'.repeatLast counts greedy) := by
  rw [repeatLast_eq, repeatLast_eq, h.items]
  cases state.items with
  | nil => exact .error _
  | cons last items =>
      simp only [List.map_cons, Part.tree_mapGroups, Tree.isDirective_mapGroups,
        Part.repeated_mapGroups, Part.checkDepth_mapGroups]
      split
      · exact .error _
      · cases (Part.repeated counts greedy last).checkDepth with
        | error fault => exact .error fault
        | ok part => exact .ok ⟨h.verbose, rfl, h.branches, h.openGroups⟩

/-- What an action must not do to be mirrored: leave the surroundings, or capture under
another name. -/
structure Allows (f : GroupKind → GroupKind) (base : List OpenGroup) (state state' : Progress)
    (action : Action) : Prop where
  flat : ∀ part, action = .push part → part.mapGroups f = part
  inside : action = .leave → base.length < state.openGroups.length
  capture : ∀ name, action = .capture name →
    f (.capture (state.captures + 1) name) = .capture (state'.captures + 1) name

variable {action : Action}

theorem apply (hplain : ∀ change, f (.plain change) = .plain change)
    (h : Mirrors f base base' state state') (hallows : Allows f base state state' action)
    (hnext : action.apply state = .ok next) (hnext' : action.apply state' = .ok next') :
    Mirrors f base base' next next' := by
  cases action with
  | push part =>
      cases hnext
      cases hnext'
      exact h.push (hallows.flat part rfl)
  | direct change =>
      cases hnext
      cases hnext'
      rw [h.verbose]
      exact (h.setVerbose _).push rfl
  | enter change =>
      refine h.openGroup (congrArg change.verbosity h.verbose) hnext ?_
      rw [hplain]
      exact hnext'
  | capture name => exact h.openCapture (hallows.capture name rfl) hnext hnext'
  | leave =>
      obtain ⟨_, heq, hm⟩ := (h.closeGroup (hallows.inside rfl)).exists_right hnext
      cases heq.symm.trans hnext'
      exact hm
  | branch =>
      cases hnext
      cases hnext'
      exact h.nextBranch
  | again counts greedy =>
      obtain ⟨_, heq, hm⟩ := (h.repeatLast counts greedy).exists_right hnext
      cases heq.symm.trans hnext'
      exact hm

/-- An action that succeeds in a state succeeds in its mirror, if there is room and no name
stands in the way. -/
theorem exists_apply (hplain : ∀ change, f (.plain change) = .plain change)
    (h : Mirrors f base base' state state') (hallows : Allows f base state state' action)
    (hroom : base'.length ≤ base.length) (hcapture : ∀ name, action ≠ .capture name)
    (hnext : action.apply state = .ok next) :
    ∃ next', action.apply state' = .ok next' ∧ Mirrors f base base' next next' := by
  suffices hok : ∃ next', action.apply state' = .ok next' by
    obtain ⟨next', hnext'⟩ := hok
    exact ⟨next', hnext', h.apply hplain hallows hnext hnext'⟩
  cases action with
  | push part => exact ⟨_, rfl⟩
  | direct change => exact ⟨_, rfl⟩
  | enter change =>
      have hlen := h.length_openGroups
      have hlimit : ¬ nestLimit ≤ state.openGroups.length := by
        intro hfull
        simp [Action.apply, Progress.openGroup, hfull] at hnext
      simp only [Action.apply, Progress.openGroup]
      rw [if_neg (by omega)]
      exact ⟨_, rfl⟩
  | capture name => exact absurd rfl (hcapture name)
  | leave =>
      obtain ⟨next', heq, -⟩ := (h.closeGroup (hallows.inside rfl)).exists_right hnext
      exact ⟨next', heq⟩
  | branch => exact ⟨_, rfl⟩
  | again counts greedy =>
      obtain ⟨next', heq, -⟩ := (h.repeatLast counts greedy).exists_right hnext
      exact ⟨next', heq⟩

end Mirrors

end Progress

/-! ## Counts and levels -/

namespace Action

variable {state next : Progress} {action : Action}

theorem openGroup_inv {kind : GroupKind} {verbose : Bool}
    (h : state.openGroup kind verbose = .ok next) :
    state.openGroups.length < nestLimit ∧
      next = { state with
        verbose
        items := []
        branches := []
        openGroups := ⟨kind, state.verbose, state.items, state.branches⟩ :: state.openGroups } := by
  unfold Progress.openGroup at h
  split at h
  · cases h
  · cases h
    exact ⟨by omega, rfl⟩

theorem closeGroup_inv (h : state.closeGroup = .ok next) :
    ∃ inner outer, state.openGroups = inner :: outer ∧
      next = { state with
        verbose := inner.verboseOutside
        items := Part.group inner.kind state.content :: inner.itemsOutside
        branches := inner.branchesOutside
        openGroups := outer } := by
  unfold Progress.closeGroup at h
  split at h
  · cases h
  · next inner outer hopen =>
      split at h
      · cases h
      · next part hdepth =>
          cases h
          exact ⟨inner, outer, hopen, by rw [Part.eq_of_checkDepth hdepth]⟩

theorem repeatLast_inv {counts : Counts} {greedy : Bool}
    (h : state.repeatLast counts greedy = .ok next) :
    ∃ last items, state.items = last :: items ∧
      next = { state with items := Part.repeated counts greedy last :: items } := by
  rw [Progress.repeatLast_eq] at h
  split at h
  · cases h
  · next last items hitems =>
      split at h
      · cases h
      · split at h
        · cases h
        · next part hdepth =>
            cases h
            exact ⟨last, items, hitems, by rw [Part.eq_of_checkDepth hdepth]⟩

theorem counts_of_capture {name : Option String} (h : (capture name).apply state = .ok next) :
    next.captures = state.captures + 1 ∧ next.names = name.elim state.names state.names.insert := by
  simp only [apply, openCapture] at h
  split at h
  · cases h
  · obtain ⟨-, rfl⟩ := openGroup_inv h
    exact ⟨rfl, rfl⟩

theorem counts_of_ne (hcapture : ∀ name, action ≠ .capture name)
    (h : action.apply state = .ok next) :
    next.captures = state.captures ∧ next.names = state.names := by
  cases action with
  | push part =>
      cases h
      exact ⟨rfl, rfl⟩
  | direct change =>
      cases h
      exact ⟨rfl, rfl⟩
  | enter change =>
      obtain ⟨-, rfl⟩ := openGroup_inv h
      exact ⟨rfl, rfl⟩
  | capture name => exact absurd rfl (hcapture name)
  | leave =>
      obtain ⟨inner, outer, -, rfl⟩ := closeGroup_inv h
      exact ⟨rfl, rfl⟩
  | branch =>
      cases h
      exact ⟨rfl, rfl⟩
  | again counts greedy =>
      obtain ⟨last, items, -, rfl⟩ := repeatLast_inv h
      exact ⟨rfl, rfl⟩

theorem captures_le (h : action.apply state = .ok next) : state.captures ≤ next.captures := by
  by_cases hcapture : ∃ name, action = .capture name
  · obtain ⟨name, rfl⟩ := hcapture
    rw [(counts_of_capture h).1]
    exact Nat.le_succ _
  · rw [(counts_of_ne (not_exists.1 hcapture) h).1]

theorem flat_of_readAction {verbose : Bool} {part : Part} {text rest : List Char}
    (h : readAction verbose text = .ok (.push part, rest)) : part.mapGroups f = part := by
  cases text with
  | nil => cases h
  | cons c text =>
      rcases part_of_readAction h with ⟨atom, rfl⟩ | ⟨negated, inner, rfl⟩ <;> rfl

theorem allows {base : List OpenGroup} {state' : Progress}
    {verbose : Bool} {text rest : List Char} (hread : readAction verbose text = .ok (action, rest))
    (hnext : action.apply state = .ok next) (hlevel : base.length ≤ next.openGroups.length)
    (hcapture : ∀ name, action = .capture name →
      f (.capture (state.captures + 1) name) = .capture (state'.captures + 1) name) :
    Progress.Mirrors.Allows f base state state' action where
  flat := by
    rintro part rfl
    exact flat_of_readAction hread
  inside := by
    rintro rfl
    obtain ⟨inner, outer, hopen, rfl⟩ := closeGroup_inv hnext
    rw [hopen]
    exact Nat.lt_succ_of_le hlevel
  capture := hcapture

end Action

/-! ## Runs in other surroundings -/

namespace Progress

variable {base base' : List OpenGroup} {state state' final : Progress} {text back : List Char}

theorem Reads.captures_le {level : Nat} (h : Reads level state text final back) :
    state.captures ≤ final.captures := by
  induction h with
  | stay => exact Nat.le_refl _
  | part _ _ hnext _ _ ih => exact (Action.captures_le hnext).trans ih

/--
A run goes the same way in other surroundings, if what `Keeps` says of both states and of the
text lets every action be taken there too, and is kept by it.
-/
theorem Reads.simulate (Keeps : Progress → Progress → List Char → Prop)
    (hstep : ∀ {state state' next : Progress} {action : Action} {c : Char}
      {text inner rest : List Char}, Mirrors f base base' state state' → Keeps state state' text →
      skipBlank state'.verbose text = c :: inner →
      readAction state'.verbose (c :: inner) = .ok (action, rest) →
      action.apply state = .ok next → base.length ≤ next.openGroups.length →
      Reads base.length next rest final back →
      ∃ next', action.apply state' = .ok next' ∧ Mirrors f base base' next next' ∧
        Keeps next next' rest)
    (h : Reads base.length state text final back) (hm : Mirrors f base base' state state')
    (hkeeps : Keeps state state' text) :
    ∃ final', Reads base'.length state' text final' back ∧ Mirrors f base base' final final' ∧
      Keeps final final' back := by
  generalize hbase : base.length = level at h hstep
  induction h generalizing state' with
  | stay => exact ⟨state', .stay _ _, hm, hkeeps⟩
  | part hblank haction hnext hlevel hrest ih =>
      rw [← hm.verbose] at hblank haction
      obtain ⟨next', hnext', hm', hkeeps'⟩ :=
        hstep hm hkeeps hblank haction hnext hlevel hrest
      obtain ⟨final', hreads, hfinal⟩ := ih hm' hkeeps' hstep
      have hlen := hm'.length_openGroups
      exact ⟨final', .part hblank haction hnext' (by omega) hreads, hfinal⟩

/-- A run that opens no capturing group goes the same way in other surroundings. -/
theorem Reads.mirror (hplain : ∀ change, f (.plain change) = .plain change)
    (h : Reads base.length state text final back) (hcaptures : final.captures = state.captures)
    (hm : Mirrors f base base' state state') (hroom : base'.length ≤ base.length) :
    ∃ final', Reads base'.length state' text final' back ∧ Mirrors f base base' final final' ∧
      final'.captures = state'.captures ∧ final'.names = state'.names := by
  have hrun := h.simulate (fun now now' _ => final.captures ≤ now.captures ∧
    now'.captures = state'.captures ∧ now'.names = state'.names) ?_ hm ⟨hcaptures.le, rfl, rfl⟩
  · obtain ⟨final', hreads, hfinal, -, hsame⟩ := hrun
    exact ⟨final', hreads, hfinal, hsame⟩
  · intro now now' next action _ _ _ _ hm' ⟨hmost, hcaptures', hnames'⟩ _ haction hnext hlevel hrest
    have hcapture : ∀ name, action ≠ .capture name := by
      rintro name rfl
      have hmore := hrest.captures_le
      have hcount := (Action.counts_of_capture hnext).1
      omega
    obtain ⟨next', hnext', hnextMirrors⟩ := hm'.exists_apply hplain
      (Action.allows haction hnext hlevel fun name heq => absurd heq (hcapture name))
      hroom hcapture hnext
    obtain ⟨hcount, -⟩ := Action.counts_of_ne hcapture hnext
    obtain ⟨hcount', hnames⟩ := Action.counts_of_ne hcapture hnext'
    exact ⟨next', hnext', hnextMirrors, hcount ▸ hmost, hcount'.trans hcaptures',
      hnames.trans hnames'⟩

end Progress

end LogPattern.Regex
