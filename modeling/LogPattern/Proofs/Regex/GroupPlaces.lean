import LogPattern.Proofs.Regex.Reading
import LogPattern.Regex.Basic

/-!
# Where capturing groups are opened

The reader numbers capturing groups from 1 in the order of their openers, so a group
is known by the place of its opening parenthesis.  The groups that are left when
flags have been applied and empty repetitions dropped are among those opened.
-/

namespace LogPattern.Regex

/-! ## Numbers of groups -/

def OpenGroup.numbers (group : OpenGroup) : List Nat :=
  Part.capturesOf group.branchesOutside ++ Part.capturesOf group.itemsOutside ++ group.kind.number

namespace Progress

/-- The numbers of all groups opened so far, in the order of their openers. -/
def numbers (state : Progress) : List Nat :=
  state.openGroups.reverse.flatMap OpenGroup.numbers ++
    (Part.capturesOf state.branches ++ Part.capturesOf state.items)

def Numbered (state : Progress) : Prop := state.numbers = List.range' 1 state.captures

theorem captures_content (state : Progress) :
    state.content.tree.captures =
      Part.capturesOf state.branches ++ Part.capturesOf state.items := by
  rw [content, Part.captures_choice, Part.captures_sequence]

theorem openGroup_spec {state next : Progress} {kind : GroupKind} {verbose : Bool}
    (h : state.openGroup kind verbose = .ok next) :
    next.captures = state.captures ∧ next.numbers = state.numbers ++ kind.number := by
  unfold openGroup at h
  split at h
  · cases h
  · cases h
    simp [numbers, OpenGroup.numbers]

theorem openCapture_spec {state next : Progress} {name : Option String}
    (h : openCapture state name = .ok next) :
    next.captures = state.captures + 1 ∧ next.numbers = state.numbers ++ [next.captures] := by
  unfold openCapture at h
  dsimp only at h
  split at h
  · cases h
  · obtain ⟨hcount, hnumbers⟩ := openGroup_spec h
    rw [hcount]
    exact ⟨rfl, hnumbers⟩

theorem closeGroup_spec {state next : Progress} (h : state.closeGroup = .ok next) :
    next.captures = state.captures ∧ next.numbers = state.numbers := by
  unfold closeGroup at h
  split at h
  · cases h
  · next inner outer hopen =>
      split at h
      · cases h
      · next part hdepth =>
          cases h
          rw [Part.eq_of_checkDepth hdepth]
          simp [numbers, hopen, OpenGroup.numbers, captures_content]

theorem repeatLast_spec {state next : Progress} {counts : Counts} {greedy : Bool}
    (h : state.repeatLast counts greedy = .ok next) :
    next.captures = state.captures ∧ next.numbers = state.numbers := by
  unfold repeatLast at h
  split at h
  · cases h
  · next last items hitems =>
      split at h
      · cases h
      · split at h
        · cases h
        · next part hdepth =>
            cases h
            rw [Part.eq_of_checkDepth hdepth]
            simp [numbers, hitems]

/-- A part opens one capturing group, at a parenthesis, or none. -/
theorem Move.numbers {state next : Progress} {text : List Char} (h : state.Move text next) :
    (next.captures = state.captures ∧ next.numbers = state.numbers) ∨
      (next.captures = state.captures + 1 ∧ next.numbers = state.numbers ++ [next.captures] ∧
        ∃ inner, text = '(' :: inner ∧ ∀ tail, inner ≠ '?' :: ':' :: tail) := by
  cases h with
  | push verbose hplain => exact .inl ⟨rfl, by simp [Progress.numbers, Progress.push, hplain]⟩
  | enter hopen =>
      obtain ⟨hcount, hnumbers⟩ := openGroup_spec hopen
      exact .inl ⟨hcount, by simpa [GroupKind.number] using hnumbers⟩
  | capture htext hinner hopen =>
      obtain ⟨hcount, hnumbers⟩ := openCapture_spec hopen
      exact .inr ⟨hcount, hnumbers, _, htext, hinner⟩
  | leave hclose => exact .inl (closeGroup_spec hclose)
  | branch =>
      exact .inl ⟨rfl, by simp [Progress.numbers, Progress.nextBranch, Part.captures_sequence]⟩
  | again hrepeat => exact .inl (repeatLast_spec hrepeat)

theorem Move.numbered {state next : Progress} {text : List Char} (h : state.Move text next)
    (hstate : state.Numbered) : next.Numbered := by
  unfold Numbered at hstate ⊢
  obtain ⟨hcount, hnumbers⟩ | ⟨hcount, hnumbers, -⟩ := h.numbers
  · rw [hnumbers, hcount, hstate]
  · rw [hnumbers, hcount, hstate, List.range'_concat]
    simp [Nat.add_comm]

theorem numbered_start : start.Numbered := rfl

end Progress

/-! ## Places of openers -/

/--
The places at which reading on opens capturing groups: for each group, the number of
characters before its parenthesis in a text of `total` characters that `text` ends.
-/
def groupPlacesFrom (total : Nat) : (steps : Nat) → Progress → List Char → List Nat
  | 0, _, _ => []
  | steps + 1, state, text =>
      match skipBlank state.verbose text with
      | [] => []
      | text =>
          match readPart state text with
          | .error _ => []
          | .ok (next, rest) =>
              if next.captures = state.captures then groupPlacesFrom total steps next rest
              else (total - text.length) :: groupPlacesFrom total steps next rest

/-- The place of the opener of every capturing group: that of group `n + 1` comes `n`-th. -/
def groupPlaces (text : List Char) : List Nat := groupPlacesFrom text.length text.length .start text

theorem readParts_spec (total : Nat) {steps : Nat} {state final : Progress} {text : List Char}
    (h : readParts steps state text = .ok final) (hstate : state.Numbered) :
    final.Numbered ∧
      final.captures = state.captures + (groupPlacesFrom total steps state text).length := by
  induction steps generalizing state text with
  | zero =>
      cases h
      exact ⟨hstate, rfl⟩
  | succ steps ih =>
      rw [readParts] at h
      rw [groupPlacesFrom]
      cases hblank : skipBlank state.verbose text with
      | nil =>
          simp only [hblank] at h ⊢
          cases h
          exact ⟨hstate, rfl⟩
      | cons c inner =>
          simp only [hblank] at h ⊢
          cases hpart : readPart state (c :: inner) with
          | error fault => simp [hpart] at h
          | ok pair =>
              obtain ⟨next, rest⟩ := pair
              simp only [hpart] at h ⊢
              have hmove := (readPart_spec hpart).2
              obtain ⟨hfinal, hcount⟩ := ih h (hmove.numbered hstate)
              refine ⟨hfinal, ?_⟩
              obtain ⟨hsame, -⟩ | ⟨hmore, -⟩ := hmove.numbers
              · rw [if_pos hsame, hcount, hsame]
              · rw [if_neg (by omega), hcount, hmore, List.length_cons]
                omega

/-- In a tree, groups are numbered from 1 in the order of their openers, and no more are opened. -/
theorem captures_ofText {text : List Char} {tree : Tree} (h : Tree.ofText? text = .ok tree) :
    tree.captures = List.range' 1 (groupPlaces text).length := by
  obtain ⟨final, hread, hopen, -, rfl⟩ := Tree.ofText?_eq_ok_iff.1 h
  obtain ⟨hnumbered, hcount⟩ := readParts_spec text.length hread Progress.numbered_start
  have hplaces : final.captures = (groupPlaces text).length := by
    simpa [Progress.start, groupPlaces] using hcount
  rw [Progress.captures_content, ← hplaces, ← hnumbered]
  simp [Progress.numbers, hopen]

/-! ## Groups that are left -/

theorem lastCapture_atom {most : Nat} {modes : Modes} {atom : Atom} {e : Expr}
    (h : atom.resolve modes = .ok e) : e.lastCapture most = most := by
  cases atom with
  | assertion kind =>
      cases h
      rfl
  | _ =>
      obtain ⟨set, -, rfl⟩ := except_map_eq_ok h
      rfl

theorem lastCapture_times_le {most bound least : Nat} {upTo : Option Nat} {greedy : Bool}
    {operand : Expr} (hmost : most ≤ bound) (h : operand.lastCapture most ≤ bound) :
    (Expr.times least upTo greedy operand).lastCapture most ≤ bound := by
  unfold Expr.times
  dsimp only
  split
  · simpa [Expr.lastCapture] using hmost
  · exact h
  · simpa [Expr.lastCapture] using h

theorem lastCaptureOfAll_append (most : Nat) (front back : List Expr) :
    Expr.lastCaptureOfAll most (front ++ back) =
      Expr.lastCaptureOfAll (Expr.lastCaptureOfAll most front) back := by
  induction front generalizing most with
  | nil => rfl
  | cons e front ih => simp [Expr.lastCaptureOfAll, ih]

mutual
theorem lastCapture_resolve_le {bound most : Nat} {modes modes' : Modes} {e : Expr} (tree : Tree)
    (h : tree.resolve modes = .ok (e, modes')) (hmost : most ≤ bound)
    (htree : ∀ number ∈ tree.captures, number ≤ bound) : e.lastCapture most ≤ bound := by
  cases tree with
  | empty =>
      cases h
      simpa [Expr.lastCapture] using hmost
  | flags change =>
      cases h
      simpa [Expr.lastCapture] using hmost
  | one atom =>
      rw [Tree.resolve] at h
      obtain ⟨atomExpr, hatom, heq⟩ := except_map_eq_ok h
      cases heq
      rwa [lastCapture_atom hatom]
  | bracketed negated inner =>
      simp only [Tree.resolve] at h
      split at h
      · cases h
      · obtain ⟨set, -, heq⟩ := except_map_eq_ok h
        cases heq
        simpa [Expr.lastCapture] using hmost
  | repeated counts greedy operand =>
      simp only [Tree.resolve] at h
      split at h
      · cases h
      · next hoperand =>
          cases h
          exact lastCapture_times_le hmost
            (lastCapture_resolve_le operand hoperand hmost (by simpa [Tree.captures] using htree))
  | group kind content =>
      simp only [Tree.resolve] at h
      split at h
      · cases h
      · next hcontent =>
          cases h
          cases kind with
          | plain change =>
              exact lastCapture_resolve_le content hcontent hmost
                (by simpa [Tree.captures] using htree)
          | capture index name =>
              simp only [Tree.captures, List.mem_cons, forall_eq_or_imp] at htree
              rw [GroupKind.wrap, Expr.lastCapture]
              exact lastCapture_resolve_le content hcontent (Nat.max_le.2 ⟨hmost, htree.1⟩) htree.2
  | choice branches =>
      simp only [Tree.resolve] at h
      split at h
      · cases h
      · next hbranches =>
          cases h
          exact lastCapture_resolveAll_le branches hbranches hmost
            (by simpa [Tree.captures] using htree)
  | sequence items =>
      simp only [Tree.resolve] at h
      split at h
      · cases h
      · next hitems =>
          cases h
          exact lastCapture_resolveAll_le items hitems hmost
            (by simpa [Tree.captures] using htree)

theorem lastCapture_resolveAll_le {bound most : Nat} {modes modes' : Modes} {done es : List Expr}
    (trees : List Tree) (h : Tree.resolveAll modes done trees = .ok (es, modes'))
    (hdone : Expr.lastCaptureOfAll most done.reverse ≤ bound)
    (htrees : ∀ number ∈ Tree.capturesOfAll trees, number ≤ bound) :
    Expr.lastCaptureOfAll most es ≤ bound := by
  cases trees with
  | nil =>
      cases h
      exact hdone
  | cons tree rest =>
      simp only [Tree.resolveAll] at h
      split at h
      · cases h
      · next e modes₁ htree =>
          simp only [Tree.capturesOfAll, List.mem_append] at htrees
          refine lastCapture_resolveAll_le rest h ?_ fun number hmem => htrees number (.inr hmem)
          rw [List.reverse_cons, lastCaptureOfAll_append]
          exact lastCapture_resolve_le tree htree hdone fun number hmem => htrees number (.inl hmem)
end

theorem captureCount_le {text : List Char} {regex : Regex} (h : Regex.ofText? text = .ok regex) :
    regex.captureCount ≤ (groupPlaces text).length := by
  obtain ⟨tree, e, htree, hexpr, -, rfl⟩ := Regex.ofText?_eq_ok_iff.1 h
  obtain ⟨⟨e', modes⟩, hresolve, rfl⟩ := except_map_eq_ok hexpr
  refine lastCapture_resolve_le tree hresolve (Nat.zero_le _) fun number hmem => ?_
  rw [captures_ofText htree, List.mem_range'_1] at hmem
  omega

/-! ## What stands at an opener -/

def openBackslash (text : List Char) : Bool :=
  text.foldl (fun waiting c => c = '\\' && !waiting) false

@[simp] theorem openBackslash_concat (text : List Char) (c : Char) :
    openBackslash (text ++ [c]) = (decide (c = '\\') && !openBackslash text) := by
  simp [openBackslash]

theorem openBackslash_append_of_getLast? {front taken : List Char}
    (hfront : openBackslash front = false) (htaken : taken.getLast? ≠ some '\\') :
    openBackslash (front ++ taken) = false := by
  rcases List.eq_nil_or_concat taken with rfl | ⟨before, c, rfl⟩
  · simpa using hfront
  · have hc : c ≠ '\\' := by simpa using htaken
    rw [List.concat_eq_append, ← List.append_assoc, openBackslash_concat]
    simp [hc]

theorem Leaves.openBackslash {front text rest : List Char} (h : Leaves text rest)
    (hfront : text ≠ [] → openBackslash front = false) :
    ∃ taken, text = taken ++ rest ∧ (rest ≠ [] → openBackslash (front ++ taken) = false) := by
  obtain ⟨taken, rfl, htaken⟩ := h
  exact ⟨taken, rfl, fun hrest =>
    openBackslash_append_of_getLast? (hfront (by simp [hrest])) (htaken hrest)⟩

theorem TakesPart.openBackslash {front text rest : List Char} (h : TakesPart text rest)
    (hfront : text ≠ [] → openBackslash front = false) :
    ∃ taken, text = taken ++ rest ∧ (rest ≠ [] → openBackslash (front ++ taken) = false) := by
  rcases h with rfl | ⟨hleaves, -⟩
  · refine ⟨['\\', '\\'], rfl, fun _ => ?_⟩
    have hpair : front ++ ['\\', '\\'] = front ++ ['\\'] ++ ['\\'] := by simp
    rw [hpair, openBackslash_concat, openBackslash_concat, hfront (by simp)]
    rfl
  · exact hleaves.openBackslash hfront

/--
The parenthesis at a place of a text may open a capturing group: it is not escaped,
and no `?:` follows it.
-/
def OpenerAt (whole : List Char) (place : Nat) : Prop :=
  ∃ front inner, whole = front ++ '(' :: inner ∧ front.length = place ∧
    openBackslash front = false ∧ ∀ tail, inner ≠ '?' :: ':' :: tail

theorem groupPlacesFrom_spec {whole : List Char} (steps : Nat) (state : Progress)
    (front text : List Char) (hwhole : whole = front ++ text)
    (hfront : text ≠ [] → openBackslash front = false) :
    (∀ place ∈ groupPlacesFrom whole.length steps state text,
      front.length ≤ place ∧ OpenerAt whole place) ∧
      (groupPlacesFrom whole.length steps state text).Pairwise (· < ·) := by
  induction steps generalizing state front text with
  | zero => simp [groupPlacesFrom]
  | succ steps ih =>
      obtain ⟨blank, htext, hblank⟩ := (leaves_skipBlank state.verbose text).openBackslash hfront
      rw [groupPlacesFrom]
      cases hcase : skipBlank state.verbose text with
      | nil => simp
      | cons c inner =>
          rw [hcase] at htext hblank
          dsimp only
          cases hpart : readPart state (c :: inner) with
          | error fault => simp
          | ok pair =>
              obtain ⟨next, rest⟩ := pair
              obtain ⟨htakes, hmove⟩ := readPart_spec hpart
              obtain ⟨taken, hinner, htaken⟩ := htakes.openBackslash hblank
              have hsplit : whole = front ++ blank ++ taken ++ rest := by
                rw [hwhole, htext, hinner]
                simp
              obtain ⟨hplaces, hsorted⟩ := ih next _ _ hsplit htaken
              have hlen : 0 < taken.length := by
                have hlt := htakes.length_lt
                rw [hinner, List.length_append] at hlt
                omega
              simp only [List.length_append] at hplaces
              have hlater : ∀ place ∈ groupPlacesFrom whole.length steps next rest,
                  front.length ≤ place ∧ OpenerAt whole place :=
                fun place hmem => ⟨by have := (hplaces place hmem).1; omega, (hplaces place hmem).2⟩
              dsimp only
              obtain ⟨hsame, -⟩ | ⟨hmore, -, tail, hopen, hplain⟩ := hmove.numbers
              · rw [if_pos hsame]
                exact ⟨hlater, hsorted⟩
              · rw [if_neg (by omega)]
                have hplace : whole.length - (c :: inner).length = (front ++ blank).length := by
                  rw [hwhole, htext]
                  simp only [List.length_append]
                  omega
                rw [hplace, List.forall_mem_cons, List.pairwise_cons]
                refine ⟨⟨⟨by simp, front ++ blank, tail, ?_, rfl, hblank (by simp), hplain⟩,
                  hlater⟩, fun place hmem => ?_, hsorted⟩
                · rw [hwhole, htext, hopen]
                  simp
                · have := (hplaces place hmem).1
                  simp only [List.length_append]
                  omega

theorem openerAt_of_mem_groupPlaces {text : List Char} {place : Nat}
    (h : place ∈ groupPlaces text) : OpenerAt text place :=
  ((groupPlacesFrom_spec _ _ [] text rfl fun _ => rfl).1 place h).2

theorem groupPlaces_sorted (text : List Char) : (groupPlaces text).Pairwise (· < ·) :=
  (groupPlacesFrom_spec _ _ [] text rfl fun _ => rfl).2

end LogPattern.Regex
