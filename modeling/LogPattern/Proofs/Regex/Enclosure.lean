import LogPattern.Proofs.Regex.Mirror

/-!
# What closes a group

Which parenthesis closes a group depends on the text behind its opener alone, and on
whether blanks are skipped there.  So it can be found out with nothing around the group,
and what has been found holds wherever the whole text can be read.
-/

namespace LogPattern.Regex

def OpenGroup.enclosure : OpenGroup := ⟨.plain [], false, [], []⟩

namespace Progress

def inside (verbose : Bool) : Progress :=
  { start with verbose, openGroups := [.enclosure] }

/--
The innermost open group is closed by the parenthesis behind `content`: reading gets
there without leaving the group, and with no other group left open in it.
-/
def ClosedBehind (state : Progress) (content behind : List Char) : Prop :=
  ∃ final, Reads state.openGroups.length state (content ++ ')' :: behind) final (')' :: behind) ∧
    final.openGroups.length = state.openGroups.length

end Progress

/-- A text that stays inside a group around it, and leaves it open up to its end. -/
def SelfContained (verbose : Bool) (content : List Char) : Prop :=
  (Progress.inside verbose).ClosedBehind content []

def Tree.readIn (verbose : Bool) (text : List Char) : Except Fault Tree :=
  match readParts text.length { Progress.start with verbose } text with
  | .error fault => .error fault
  | .ok state => state.finish

variable {f : GroupKind → GroupKind}

namespace Progress

variable {base base' : List OpenGroup} {state state' next next' final last : Progress}
  {text rest back stop : List Char} {action : Action}

/-! ## Reading on -/

/-- A run to the end of the text goes on from every place that another run gets to. -/
theorem Reads.resume {level lower : Nat} (h : Reads level state text final back)
    (hrun : Reads lower state text last stop) (hend : skipBlank last.verbose stop = []) :
    Reads lower final back last stop := by
  rcases h.compare hrun with hrest | hrest
  · exact hrest
  · cases hrest with
    | stay => exact .stay _ _
    | part hblank =>
        rw [hend] at hblank
        cases hblank

/-- A run to the end of the text passes the part that it is at. -/
theorem Reads.advance {lower : Nat} {c : Char} {inner : List Char}
    (hrun : Reads lower state text last stop) (hend : skipBlank last.verbose stop = [])
    (hblank : skipBlank state.verbose text = c :: inner)
    (haction : readAction state.verbose (c :: inner) = .ok (action, rest)) :
    ∃ next, action.apply state = .ok next ∧ Reads lower next rest last stop := by
  cases hrun with
  | stay =>
      rw [hend] at hblank
      cases hblank
  | part hblank' haction' hnext _ hrest =>
      rw [hblank] at hblank'
      obtain ⟨rfl, rfl⟩ := List.cons.inj hblank'
      rw [haction] at haction'
      obtain ⟨rfl, rfl⟩ := Prod.mk.inj (Except.ok.inj haction')
      exact ⟨_, hnext, hrest⟩

/-! ## Runs with captures in other surroundings -/

/-- The numbers that come next in the first state stand for those that come next in the second. -/
def Renumbers (f : GroupKind → GroupKind) (state state' : Progress) : Prop :=
  ∀ ahead name, f (.capture (state.captures + ahead + 1) name) =
    .capture (state'.captures + ahead + 1) name

theorem Renumbers.apply (h : Renumbers f state state') (hnext : action.apply state = .ok next)
    (hnext' : action.apply state' = .ok next') : Renumbers f next next' := by
  intro ahead name
  by_cases hcapture : ∃ name, action = .capture name
  · obtain ⟨_, rfl⟩ := hcapture
    rw [(Action.counts_of_capture hnext).1, (Action.counts_of_capture hnext').1,
      Nat.add_right_comm _ 1 ahead, Nat.add_right_comm _ 1 ahead]
    exact h (ahead + 1) name
  · have hne := not_exists.1 hcapture
    rw [(Action.counts_of_ne hne hnext).1, (Action.counts_of_ne hne hnext').1]
    exact h ahead name

theorem Mirrors.step {verbose : Bool} (hplain : ∀ change, f (.plain change) = .plain change)
    (hm : Mirrors f base base' state state') (hnumbers : Renumbers f state state')
    (haction : readAction verbose text = .ok (action, rest))
    (hnext : action.apply state = .ok next) (hlevel : base.length ≤ next.openGroups.length)
    (hnext' : action.apply state' = .ok next') :
    Mirrors f base base' next next' ∧ Renumbers f next next' := by
  have hallows := Action.allows haction hnext hlevel fun name _ => hnumbers 0 name
  exact ⟨hm.apply hplain hallows hnext hnext', hnumbers.apply hnext hnext'⟩

theorem Mirrors.same_openGroups (hm : Mirrors f base base' state state')
    (hlevel : state.openGroups.length = base.length) : state'.openGroups = base' := by
  obtain ⟨inner, hinner, hinner'⟩ := hm.openGroups
  rw [hinner, List.length_append] at hlevel
  obtain rfl : inner = [] := List.length_eq_zero_iff.1 (by omega)
  exact hinner'

/-- A run in other surroundings follows as far as the text there can be read at all. -/
theorem Reads.follow (hplain : ∀ change, f (.plain change) = .plain change) {lower : Nat}
    (h : Reads base.length state text final back) (hm : Mirrors f base base' state state')
    (hnumbers : Renumbers f state state') (hrun : Reads lower state' text last stop)
    (hend : skipBlank last.verbose stop = []) :
    ∃ final', Reads base'.length state' text final' back ∧ Mirrors f base base' final final' := by
  have hsame := h.simulate (fun now now' ahead => Renumbers f now now' ∧
    Reads lower now' ahead last stop) ?_ hm ⟨hnumbers, hrun⟩
  · obtain ⟨final', hreads, hfinal, -⟩ := hsame
    exact ⟨final', hreads, hfinal⟩
  · intro now now' next action _ _ _ _ hnow ⟨hnumbers, hrun⟩ hblank haction hnext hlevel _
    obtain ⟨next', hnext', hrest⟩ := hrun.advance hend hblank haction
    obtain ⟨hm', hnumbers'⟩ := hnow.step hplain hnumbers haction hnext hlevel hnext'
    exact ⟨next', hnext', hm', hnumbers', hrest⟩

def NamesIn (state state' : Progress) : Prop :=
  ∀ name, state'.names.contains name = true → state.names.contains name = true

theorem openCapture_inv {name : Option String} (h : openCapture state name = .ok next) :
    name.any state.names.contains = false ∧ state.openGroups.length < nestLimit := by
  unfold openCapture at h
  dsimp only at h
  split at h
  · cases h
  · next hfresh => exact ⟨by simpa using hfresh, (Action.openGroup_inv h).1⟩

theorem exists_openCapture (name : Option String)
    (hfresh : name.any state.names.contains = false)
    (hroom : state.openGroups.length < nestLimit) : ∃ next, openCapture state name = .ok next := by
  unfold openCapture
  simp only [hfresh, Bool.false_eq_true, if_false, Progress.openGroup]
  rw [if_neg (by omega)]
  exact ⟨_, rfl⟩

/-- An action succeeds as well where there is more room and fewer names are in use. -/
theorem Mirrors.exists_next (hplain : ∀ change, f (.plain change) = .plain change)
    (hm : Mirrors f base base' state state') (hallows : Allows f base state state' action)
    (hroom : base'.length ≤ base.length) (hnames : NamesIn state state')
    (hnext : action.apply state = .ok next) :
    ∃ next', action.apply state' = .ok next' ∧ NamesIn next next' := by
  by_cases hcapture : ∀ name, action ≠ .capture name
  · obtain ⟨next', hnext', -⟩ := hm.exists_apply hplain hallows hroom hcapture hnext
    refine ⟨next', hnext', fun name => ?_⟩
    rw [(Action.counts_of_ne hcapture hnext).2, (Action.counts_of_ne hcapture hnext').2]
    exact hnames name
  · obtain ⟨name, rfl⟩ : ∃ name, action = .capture name := by simpa using hcapture
    obtain ⟨hfresh, hlimit⟩ := openCapture_inv hnext
    have hlen := hm.length_openGroups
    have hfresh' : name.any state'.names.contains = false := by
      cases name with
      | none => rfl
      | some name =>
          rw [Option.any_some, ← Bool.not_eq_true] at hfresh ⊢
          exact fun hmem => hfresh (hnames name hmem)
    obtain ⟨next', hnext'⟩ := exists_openCapture name hfresh' (by omega)
    refine ⟨next', hnext', fun other => ?_⟩
    rw [(Action.counts_of_capture hnext).2, (Action.counts_of_capture hnext').2]
    cases name with
    | none => exact hnames other
    | some name =>
        simp only [Option.elim_some, Std.TreeSet.contains_insert, Bool.or_eq_true]
        exact Or.imp_right (hnames other)

/-- A run is the same with less around it. -/
theorem Reads.alone (hplain : ∀ change, f (.plain change) = .plain change)
    (h : Reads base.length state text final back) (hm : Mirrors f base base' state state')
    (hnumbers : Renumbers f state state') (hroom : base'.length ≤ base.length)
    (hnames : NamesIn state state') :
    ∃ final', Reads base'.length state' text final' back ∧ Mirrors f base base' final final' := by
  have hsame := h.simulate (fun now now' _ => Renumbers f now now' ∧ NamesIn now now') ?_ hm
    ⟨hnumbers, hnames⟩
  · obtain ⟨final', hreads, hfinal, -⟩ := hsame
    exact ⟨final', hreads, hfinal⟩
  · intro now now' next action _ _ _ _ hnow ⟨hnumbers, hnames⟩ _ haction hnext hlevel _
    have hallows := Action.allows haction hnext hlevel fun name _ => hnumbers 0 name
    obtain ⟨next', hnext', hnames'⟩ := hnow.exists_next hplain hallows hroom hnames hnext
    obtain ⟨hm', hnumbers'⟩ := hnow.step hplain hnumbers haction hnext hlevel hnext'
    exact ⟨next', hnext', hm', hnumbers', hnames'⟩

end Progress

/-! ## Closing parentheses -/

namespace GroupKind

def raise (count : Nat) : GroupKind → GroupKind
  | capture index name => capture (index + count) name
  | plain change => plain change

def lower (count : Nat) : GroupKind → GroupKind
  | capture index name => capture (index - count) name
  | plain change => plain change

theorem raise_comp_lower_zero (count : Nat) : raise count ∘ lower 0 = raise count := by
  funext kind
  cases kind <;> rfl

end GroupKind

namespace Progress

variable {state opened last : Progress} {group : OpenGroup} {outer : List OpenGroup}
  {content behind stop : List Char} {lower : Nat}

theorem renumbers_lower (verbose : Bool) (base : List OpenGroup) :
    Renumbers (GroupKind.lower state.captures) state
      { start with verbose, openGroups := base } := by
  intro ahead name
  simp only [GroupKind.lower, start]
  congr 1
  omega

theorem renumbers_raise (verbose : Bool) (base : List OpenGroup) :
    Renumbers (GroupKind.raise state.captures) { start with verbose, openGroups := base }
      state := by
  intro ahead name
  simp only [GroupKind.raise, start]
  congr 1
  omega

theorem namesIn_start (state : Progress) (verbose : Bool) (base : List OpenGroup) :
    NamesIn state { start with verbose, openGroups := base } := by
  intro name h
  simp [start] at h

structure AtOpener (state : Progress) (group : OpenGroup) (outer : List OpenGroup) : Prop where
  items : state.items = []
  branches : state.branches = []
  openGroups : state.openGroups = group :: outer

/-- What closes a group in its place closes it with nothing around it. -/
theorem ClosedBehind.selfContained (hopen : opened.AtOpener group outer)
    (h : opened.ClosedBehind content behind) : SelfContained opened.verbose content := by
  obtain ⟨final, hreads, hlevel⟩ := h
  have halone := Reads.before_stop (w := []) (.inr (.inr rfl) : Stops [')']) (by simp) hreads
  have hm : Mirrors (GroupKind.lower opened.captures) opened.openGroups [.enclosure] opened
      (.inside opened.verbose) :=
    ⟨rfl, by rw [hopen.items]; rfl, by rw [hopen.branches]; rfl, [], rfl, rfl⟩
  obtain ⟨final', hreads', hm'⟩ := halone.alone (fun _ => rfl) hm (renumbers_lower _ _)
    (by rw [hopen.openGroups]; simp) (namesIn_start _ _ _)
  have hlen := hm'.length_openGroups
  exact ⟨final', hreads', by simp only [inside, List.length_singleton] at hlen ⊢; omega⟩

theorem closeGroup_depth {next : Progress} (h : state.closeGroup = .ok next) :
    state.content.depth + 1 ≤ nestLimit := by
  unfold closeGroup at h
  split at h
  · cases h
  · split at h
    · cases h
    · next hcheck => exact Part.le_of_checkDepth hcheck

theorem skipBlank_closing (verbose : Bool) (behind : List Char) :
    skipBlank verbose (')' :: behind) = ')' :: behind := by
  cases verbose with
  | false => rfl
  | true => exact skipVerbose_of_stops (.inr (.inr rfl))

theorem readIn_of_reads (verbose : Bool) {text : List Char} {final : Progress}
    (h : Reads 0 { start with verbose } text final []) (hclosed : final.openGroups = [])
    (hdepth : final.content.depth ≤ nestLimit) :
    Tree.readIn verbose text = .ok final.content.tree := by
  have hblank : skipBlank final.verbose [] = [] := by cases final.verbose <;> rfl
  rw [Tree.readIn, readParts_of_reads h hblank (Nat.le_refl _)]
  exact finish_eq_ok_iff.2 ⟨hclosed, hdepth, rfl⟩

/-- What closes a group with nothing around it closes it in its place, and what is in it is
the same. -/
theorem SelfContained.closedBehind (h : SelfContained opened.verbose content)
    (hopen : opened.AtOpener group outer)
    (hrun : Reads lower opened (content ++ ')' :: behind) last stop)
    (hend : skipBlank last.verbose stop = []) :
    ∃ final next tree,
      Reads opened.openGroups.length opened (content ++ ')' :: behind) final (')' :: behind) ∧
      final.openGroups = opened.openGroups ∧ final.closeGroup = .ok next ∧
      Reads lower next behind last stop ∧
      Tree.readIn opened.verbose content = .ok tree ∧
      final.content.tree = tree.mapGroups (GroupKind.raise opened.captures) := by
  obtain ⟨free, hfree, hlevel⟩ := h
  -- in its place
  have hplace := Reads.before_stop (w := []) (.inr (.inr rfl) : Stops (')' :: behind))
    (by simp) hfree
  have hm : Mirrors (GroupKind.raise opened.captures) [.enclosure] opened.openGroups
      (.inside opened.verbose) opened :=
    ⟨rfl, by rw [hopen.items]; rfl, by rw [hopen.branches]; rfl, [], rfl, rfl⟩
  obtain ⟨final, hreads, hfinal⟩ :=
    hplace.follow (fun _ => rfl) hm (renumbers_raise _ _) hrun hend
  have hleave : readAction final.verbose (')' :: behind) = .ok (.leave, behind) := rfl
  obtain ⟨next, hclose, hrest⟩ := (hreads.resume hrun hend).advance hend
    (skipBlank_closing final.verbose behind) hleave
  -- with nothing around it
  have halone := Reads.before_stop (w := []) (.inl rfl : Stops []) (by simp) hfree
  have hm' : Mirrors (GroupKind.lower 0) [.enclosure] [] (.inside opened.verbose)
      { start with verbose := opened.verbose } :=
    ⟨rfl, rfl, rfl, [], rfl, rfl⟩
  obtain ⟨whole, hwhole, hcontent⟩ := halone.alone (fun _ => rfl) hm'
    (renumbers_lower _ _) (Nat.zero_le _) (namesIn_start _ _ _)
  have hdepth : whole.content.depth ≤ nestLimit := by
    have hshallow := closeGroup_depth hclose
    rw [hfinal.content, Part.depth_mapGroups] at hshallow
    rw [hcontent.content, Part.depth_mapGroups]
    omega
  refine ⟨final, next, whole.content.tree, hreads, hfinal.same_openGroups hlevel, hclose, hrest,
    readIn_of_reads _ (by simpa using hwhole) (hcontent.same_openGroups hlevel) hdepth, ?_⟩
  rw [hfinal.content, hcontent.content, Part.tree_mapGroups, Part.tree_mapGroups,
    Tree.mapGroups_mapGroups, GroupKind.raise_comp_lower_zero]

end Progress

end LogPattern.Regex
