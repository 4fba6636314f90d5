import LogPattern.Proofs.Pattern.Containment
import LogPattern.Proofs.Pattern.GroupScan
import LogPattern.Proofs.Regex.WholeMatch

/-!
# Fragments without capturing groups

Outside verbose mode the scan for groups and the reader agree on every part.  So what is
read of a scanned fragment is what was read of the fragment itself, with its capturing
groups made plain, and it is found in the same places.
-/

namespace LogPattern

open Regex

/-! ## Plain groups -/

/-- A plain group in the place of a numbered one; 0 is the number of the whole match. -/
def Regex.GroupKind.ungrouped : GroupKind → GroupKind
  | .capture (_ + 1) _ => .plain []
  | kind => kind

/-- Making groups plain comes to leaving the captures of the expression out. -/
theorem renames_ungrouped : Renames GroupKind.ungrouped Expr.wholeOnly where
  inside kind modes := by
    cases kind with
    | capture index name => cases index <;> rfl
    | plain change => rfl
  wrap kind e := by
    cases kind with
    | capture index name => cases index <;> simp [GroupKind.ungrouped, GroupKind.wrap,
        Expr.mapCaptures, Expr.wholeOnly]
    | plain change => rfl

namespace Regex

def Action.ungrouped : Action → Action
  | .capture _ => .enter []
  | action => action

theorem Action.ungrouped_of_ne {action : Action} (h : ∀ name, action ≠ .capture name) :
    action.ungrouped = action := by
  cases action with
  | capture name => exact absurd rfl (h name)
  | _ => rfl

namespace Progress

variable {state state' next final : Progress} {action : Action}

theorem Mirrors.ungrouped (hm : Mirrors GroupKind.ungrouped [] [] state state')
    {verbose : Bool} {text rest : List Char}
    (hread : readAction verbose text = .ok (action, rest)) (hnext : action.apply state = .ok next) :
    ∃ next', action.ungrouped.apply state' = .ok next' ∧
      Mirrors GroupKind.ungrouped [] [] next next' := by
  by_cases hcapture : ∃ name, action = .capture name
  · obtain ⟨name, rfl⟩ := hcapture
    simp only [Action.apply, Regex.openCapture] at hnext
    split at hnext
    · cases hnext
    · have hroom : state.openGroups.length < nestLimit := (Action.openGroup_inv hnext).1
      have hlength : state'.openGroups.length = state.openGroups.length := hm.length_openGroups
      obtain ⟨next', hnext'⟩ :
          ∃ next', state'.openGroup (.plain []) state'.verbose = .ok next' := by
        unfold Progress.openGroup
        rw [if_neg (by omega)]
        exact ⟨_, rfl⟩
      have hcounted := hm.count (state.captures + 1) state'.captures
        (name.elim state.names state.names.insert) state'.names
      exact ⟨next', hnext', hcounted.openGroup hm.verbose hnext hnext'⟩
  · have hne := not_exists.1 hcapture
    rw [Action.ungrouped_of_ne hne]
    exact hm.exists_apply (fun _ => rfl)
      (Action.allows hread hnext (Nat.zero_le _) fun name heq => absurd heq (hne name))
      (Nat.le_refl _) hne hnext

theorem captures_of_ungrouped (h : action.ungrouped.apply state = .ok next) :
    next.captures = state.captures := by
  refine (Action.counts_of_ne (fun name heq => ?_) h).1
  cases action <;> cases heq

/-- Blanks count here, and behind every group that is open. -/
structure KeepsBlanks (state : Progress) : Prop where
  verbose : state.verbose = false
  outside : ∀ group ∈ state.openGroups, group.verboseOutside = false

theorem verbosity_of_plain {change : FlagChange} (h : UnitTest.plain.change change = true) :
    change.verbosity false = false := by
  have hvalue : change.value? .verbose ≠ some true := by simpa [UnitTest.plain] using h
  unfold FlagChange.verbosity
  cases hverbose : change.value? .verbose with
  | none => rfl
  | some verbose =>
      cases verbose with
      | false => rfl
      | true => exact absurd hverbose hvalue

theorem KeepsBlanks.openGroup {kind : GroupKind} {verbose : Bool} (hstate : state.KeepsBlanks)
    (hverbose : verbose = false) (h : state.openGroup kind verbose = .ok next) :
    next.KeepsBlanks := by
  obtain ⟨-, rfl⟩ := Action.openGroup_inv h
  exact ⟨hverbose, List.forall_mem_cons.2 ⟨hstate.verbose, hstate.outside⟩⟩

/-- Nothing but a flag makes blanks stop counting. -/
theorem KeepsBlanks.apply (hstate : state.KeepsBlanks) (hplain : action.passes .plain = true)
    (h : action.apply state = .ok next) : next.KeepsBlanks := by
  cases action with
  | push part =>
      cases h
      exact ⟨hstate.verbose, hstate.outside⟩
  | direct change =>
      cases h
      refine ⟨?_, hstate.outside⟩
      rw [hstate.verbose]
      exact verbosity_of_plain hplain
  | enter change =>
      refine hstate.openGroup ?_ h
      rw [hstate.verbose]
      exact verbosity_of_plain hplain
  | capture name =>
      simp only [Action.apply, openCapture] at h
      split at h
      · cases h
      · have hcounted : KeepsBlanks { state with
            captures := state.captures + 1
            names := name.elim state.names state.names.insert } := ⟨hstate.verbose, hstate.outside⟩
        exact hcounted.openGroup hstate.verbose h
  | leave =>
      obtain ⟨inner, outer, hopen, rfl⟩ := Action.closeGroup_inv h
      have hgroups := hstate.outside
      rw [hopen, List.forall_mem_cons] at hgroups
      exact ⟨hgroups.1, hgroups.2⟩
  | branch =>
      cases h
      exact ⟨hstate.verbose, hstate.outside⟩
  | again counts greedy =>
      obtain ⟨last, items, -, rfl⟩ := Action.repeatLast_inv h
      exact ⟨hstate.verbose, hstate.outside⟩

end Progress

end Regex

/-! ## Scanned parts -/

namespace ScanState

variable {text rest back : List Char}

theorem exists_scan_cons (state : ScanState) (c : Char) (text : List Char) :
    ∃ tail, state.scan (c :: text) = c :: tail := by
  rw [scan, neutralizeFrom, if_neg (by decide)]
  split
  · next hgroup =>
      obtain rfl : c = '(' := by
        simp only [opensGroup, Bool.and_eq_true, decide_eq_true_eq] at hgroup
        exact hgroup.1.1
      cases openerKind text <;> exact ⟨_, neutralizeFrom_eq _ _ _ _⟩
  · exact ⟨_, neutralizeFrom_eq _ _ _ _⟩

/-- A part in front reads the same before a text and before what the scan makes of it. -/
theorem alike_scan (ahead : Nat) (text : List Char) :
    Alike false text ((inBrackets 0 ahead).scan text) := by
  cases text with
  | nil => exact .near rfl
  | cons c text =>
      by_cases hparen : c = '('
      · subst hparen
        obtain ⟨tail, htail⟩ := (inBrackets 0 ahead).exists_scan_cons '(' text
        exact .stops (.inr (.inl rfl)) (.inr (.inl (by rw [htail]; rfl)))
      · have hgroup : (inBrackets 0 ahead).opensGroup c = false := by simp [opensGroup, hparen]
        obtain ⟨front, htext, hscan⟩ := Copies.char hgroup text
        obtain rfl : front = [c] :=
          List.append_cancel_right (htext.symm : front ++ text = [c] ++ text)
        rw [hscan]
        refine .near ?_
        cases text with
        | nil => rfl
        | cons d text =>
            obtain ⟨tail, htail⟩ :=
              ((inBrackets 0 ahead).next c (d :: text)).exists_scan_cons d text
            rw [htail]
            rfl

/-- A scanned part reads as the part, unless it opens a capturing group. -/
theorem readAction_scan {c : Char} {action : Action}
    (h : readAction false (c :: text) = .ok (action, rest))
    (hknown : action.passes .knownProperty = true) (hplain : action.passes .plain = true)
    (ahead : Nat) :
    ∃ ahead', readAction false ((inBrackets 0 ahead).scan (c :: text)) =
      .ok (action.ungrouped, (inBrackets 0 ahead').scan rest) := by
  by_cases hcapture : ∃ name, action = .capture name
  · obtain ⟨name, rfl⟩ := hcapture
    obtain ⟨rfl, hgroup⟩ : c = '(' ∧ readGroupAction false text = .ok (.capture name, rest) :=
      eq_paren_of_capture h
    refine ⟨ahead - 1, ?_⟩
    rw [scan_capture hgroup]
    rfl
  · have hcapture : ∀ name, action ≠ .capture name := fun name heq => hcapture ⟨name, heq⟩
    obtain ⟨ahead', front, htext, hscan⟩ := copies_part h hcapture hknown hplain ahead
    rw [htext] at h
    rw [hscan, Action.ungrouped_of_ne hcapture]
    have hlocal := readAction_local (w := []) (alike_scan ahead' rest)
      (fun _ _ heq => nomatch heq) h
    exact ⟨ahead', hlocal⟩

theorem reads_scan {state state' final : Progress} (ahead : Nat)
    (h : Progress.Reads 0 state text final back) (hblanks : state.KeepsBlanks)
    (hknown : final.Passes .knownProperty) (hplain : final.Passes .plain)
    (hm : Progress.Mirrors GroupKind.ungrouped [] [] state state') :
    ∃ final' ahead',
      Progress.Reads 0 state' ((inBrackets 0 ahead).scan text) final'
        ((inBrackets 0 ahead').scan back) ∧
      Progress.Mirrors GroupKind.ungrouped [] [] final final' ∧
      final'.captures = state'.captures ∧ final.KeepsBlanks := by
  induction h generalizing state' ahead with
  | stay => exact ⟨state', ahead, .stay _ _, hm, rfl, hblanks⟩
  | @part state next final c text inner rest back action hblank haction hnext hlevel hrest ih =>
      rw [hblanks.verbose] at hblank haction
      obtain rfl : text = c :: inner := hblank
      obtain ⟨hknownPart, -⟩ := Progress.Passes.of_apply hnext (hrest.passes hknown)
      obtain ⟨hplainPart, -⟩ := Progress.Passes.of_apply hnext (hrest.passes hplain)
      obtain ⟨behind, hread⟩ := readAction_scan haction hknownPart hplainPart ahead
      obtain ⟨next', hnext', hm'⟩ := hm.ungrouped haction hnext
      obtain ⟨final', ahead', hreads, hfinal, hcaptures, hkeeps⟩ :=
        ih behind (hblanks.apply hplainPart hnext) hknown hplain hm'
      obtain ⟨tail, htail⟩ := (inBrackets 0 ahead).exists_scan_cons c inner
      have hverbose : state'.verbose = false := hm.verbose.trans hblanks.verbose
      rw [htail] at hread ⊢
      rw [← hverbose] at hread
      refine ⟨final', ahead', .part ?_ hread hnext' (Nat.zero_le _) hreads, hfinal, ?_, hkeeps⟩
      · rw [hverbose, skipBlank_false]
      · rw [hcaptures, Progress.captures_of_ungrouped hnext']

end ScanState

/-! ## Scanned fragments -/

/-- The tree of a scanned fragment is that of the fragment, with plain groups. -/
theorem ofText_neutralizeGroups {fragment : List Char} {tree : Tree}
    (h : Tree.ofText? fragment = .ok tree) (hknown : tree.passes .knownProperty = true)
    (hplain : tree.passes .plain = true) :
    Tree.ofText? (neutralizeGroups fragment) = .ok (tree.mapGroups GroupKind.ungrouped) ∧
      (tree.mapGroups GroupKind.ungrouped).captures = [] := by
  obtain ⟨final, hfinal, hclosed, hdepth, rfl⟩ := Tree.ofText?_eq_ok_iff.1 h
  obtain ⟨back, hreads, hback⟩ := reads_of_readParts hfinal (Nat.le_refl _)
  have passes {test : UnitTest} (hpasses : final.content.tree.passes test = true) :
      final.Passes test := by
    obtain ⟨hitems, hbranches⟩ := Progress.passes_content.1 hpasses
    exact ⟨hitems, hbranches, by simp [hclosed]⟩
  have hstart : Progress.Mirrors GroupKind.ungrouped [] [] .start .start :=
    ⟨rfl, rfl, rfl, [], rfl, rfl⟩
  have hblanks : Progress.KeepsBlanks .start := ⟨rfl, by simp [Progress.start]⟩
  obtain ⟨final', ahead', hreads', hm, hcaptures, hkeeps⟩ :=
    ScanState.reads_scan 0 hreads hblanks (passes hknown) (passes hplain) hstart
  have hblank : back = [] := by rwa [hkeeps.verbose, skipBlank_false] at hback
  have hscanned : readParts (neutralizeGroups fragment).length .start
      (neutralizeGroups fragment) = .ok final' := by
    refine readParts_of_reads hreads' ?_ (Nat.le_refl _)
    rw [hblank, hm.verbose, hkeeps.verbose]
    rfl
  have hclosed' : final'.openGroups = [] := by
    obtain ⟨inner, hinner, hinner'⟩ := hm.openGroups
    rw [hclosed, List.append_nil] at hinner
    rw [hinner', ← hinner]
    rfl
  constructor
  · refine Tree.ofText?_eq_ok_iff.2 ⟨final', hscanned, hclosed', ?_, ?_⟩
    · rwa [hm.content, Part.depth_mapGroups]
    · rw [hm.content, Part.tree_mapGroups]
  · have hnumbers : final'.numbers = List.range' 1 final'.captures :=
      hreads'.numbered Progress.numbered_start
    have hcontent := final'.captures_content
    rw [hm.content, Part.tree_mapGroups] at hcontent
    rw [hcontent]
    simpa [Progress.numbers, hclosed', hcaptures, Progress.start] using hnumbers

/-- A fragment that never makes blanks stop counting, and has no range that ends in an opening
bracket, keeps its meaning without capturing groups: it is read, it captures nothing, and the
whole match is found where it was. -/
theorem neutralizeGroups_keeps_match {fragment : List Char} {tree : Tree} {regex : Regex}
    (htree : Tree.ofText? fragment = .ok tree) (hplain : tree.passes .plain = true)
    (hregex : Regex.ofText? fragment = .ok regex) :
    ∃ tree' regex', Tree.ofText? (neutralizeGroups fragment) = .ok tree' ∧ tree'.captures = [] ∧
      Regex.ofText? (neutralizeGroups fragment) = .ok regex' ∧ regex'.captureCount = 0 ∧
      ∀ text, regex'.captures? text = (regex.captures? text).map (·.take 1) := by
  obtain ⟨same, e, hsame, he, hfits, rfl⟩ := Regex.ofText?_eq_ok_iff.1 hregex
  obtain rfl : tree = same := Except.ok.inj (htree.symm.trans hsame)
  obtain ⟨⟨e, modes⟩, hresolve, rfl⟩ := except_map_eq_ok he
  obtain ⟨hread, hcaptures⟩ :=
    ofText_neutralizeGroups htree (Tree.passes_knownProperty tree hresolve) hplain
  have he' : (tree.mapGroups GroupKind.ungrouped).expr = .ok e.ungrouped := by
    rw [Tree.expr, Tree.resolve_mapGroups renames_ungrouped, hresolve]
    rfl
  have hcount : e.ungrouped.captureCount = 0 := by
    rw [Expr.captureCount, Expr.lastCapture_ungrouped]
  exact ⟨_, ⟨e.ungrouped.program, 0⟩, hread, hcaptures,
    Regex.ofText?_eq_ok_iff.2 ⟨_, _, hread, he', Expr.fits_ungrouped hfits, by rw [hcount]⟩, rfl,
    fun text => captures?_ungrouped e _ text⟩

theorem neutralizeGroups_keeps_match_nested :
    ∃ tree regex,
      Tree.ofText? "(?P<n>a[\\](]|(b))*".toList = .ok tree ∧ tree.passes .plain = true ∧
      Regex.ofText? "(?P<n>a[\\](]|(b))*".toList = .ok regex ∧ regex.captureCount = 2 ∧
      ∃ tree' regex',
        Tree.ofText? (neutralizeGroups "(?P<n>a[\\](]|(b))*".toList) = .ok tree' ∧
        tree'.captures = [] ∧
        Regex.ofText? (neutralizeGroups "(?P<n>a[\\](]|(b))*".toList) = .ok regex' ∧
        regex'.captureCount = 0 ∧
        ∀ text, regex'.captures? text = (regex.captures? text).map (·.take 1) := by
  obtain ⟨tree, htree, hplain⟩ :
      ∃ tree, Tree.ofText? "(?P<n>a[\\](]|(b))*".toList = .ok tree ∧ tree.passes .plain = true :=
    except_exists_ok (by decide +kernel)
  obtain ⟨regex, hregex, hcount⟩ :
      ∃ regex, Regex.ofText? "(?P<n>a[\\](]|(b))*".toList = .ok regex ∧
        decide (regex.captureCount = 2) = true :=
    except_exists_ok (by decide +kernel)
  exact ⟨tree, regex, htree, hplain, hregex, of_decide_eq_true hcount,
    neutralizeGroups_keeps_match htree hplain hregex⟩

/-- The scan takes the bracket at the end of a range for the start of a class, and so it
overlooks a group. -/
theorem neutralizeGroups_overlooks_group :
    neutralizeGroups "[+-[](a)".toList = "[+-[](a)".toList ∧
      ∃ regex, Regex.ofText? "[+-[](a)".toList = .ok regex ∧ regex.captureCount = 1 := by
  obtain ⟨regex, hregex, hcount⟩ :
      ∃ regex, Regex.ofText? "[+-[](a)".toList = .ok regex ∧
        decide (regex.captureCount = 1) = true :=
    except_exists_ok (by decide +kernel)
  exact ⟨by decide +kernel, regex, hregex, of_decide_eq_true hcount⟩

end LogPattern
