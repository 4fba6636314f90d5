import LogPattern.Proofs.Regex.Action

/-!
# One part at a time

What reading a part does to the text and to the progress.  Every later fact about the
reader is an invariant of these steps: a text is passed without stopping behind an
open backslash, and capturing groups are numbered in the order of their openers.
-/

namespace LogPattern.Regex

/-- A part takes something; it ends in a backslash only as an escaped one. -/
def TakesPart (text rest : List Char) : Prop :=
  text = '\\' :: '\\' :: rest ∨ (Leaves text rest ∧ rest.length < text.length)

namespace TakesPart

theorem of_leaves {c : Char} {text rest : List Char} (hc : c ≠ '\\') (h : Leaves text rest) :
    TakesPart (c :: text) rest :=
  .inr ⟨h.cons (.inl hc), Nat.lt_succ_of_le h.suffix.length_le⟩

theorem of_suffix {c d : Char} {text rest : List Char} (hd : d ≠ '\\') (h : d :: rest <:+ text) :
    TakesPart (c :: text) rest := by
  have hlen : rest.length < text.length := h.length_le
  exact .inr ⟨(Leaves.of_suffix hd h).cons (.inr hlen), Nat.lt_succ_of_lt hlen⟩

theorem length_lt {text rest : List Char} (h : TakesPart text rest) :
    rest.length < text.length := by
  obtain rfl | ⟨-, hlen⟩ := h
  · simp only [List.length_cons]
    omega
  · exact hlen

theorem suffix {c : Char} {text rest : List Char} (h : TakesPart (c :: text) rest) :
    rest <:+ text := by
  obtain heq | ⟨hleaves, hlen⟩ := h
  · cases heq
    exact List.suffix_cons _ _
  · refine (List.suffix_cons_iff.1 hleaves.suffix).resolve_left ?_
    rintro rfl
    exact absurd hlen (Nat.lt_irrefl _)

end TakesPart

/-! ## Capturing groups of trees -/

namespace Tree

mutual
def captures : Tree → List Nat
  | .empty => []
  | .flags _ => []
  | .one _ => []
  | .bracketed _ _ => []
  | .repeated _ _ operand => operand.captures
  | .group (.capture index _) content => index :: content.captures
  | .group (.plain _) content => content.captures
  | .choice branches => capturesOfAll branches
  | .sequence items => capturesOfAll items

def capturesOfAll : List Tree → List Nat
  | [] => []
  | tree :: rest => tree.captures ++ capturesOfAll rest
end

theorem capturesOfAll_eq_flatMap (trees : List Tree) :
    capturesOfAll trees = trees.flatMap captures := by
  induction trees with
  | nil => simp [capturesOfAll]
  | cons tree rest ih => simp [capturesOfAll, ih]

end Tree

def GroupKind.number : GroupKind → List Nat
  | .capture index _ => [index]
  | .plain _ => []

namespace Part

/-- The numbers of the capturing groups in parts that are given last first. -/
def capturesOf (parts : List Part) : List Nat := parts.reverse.flatMap (·.tree.captures)

@[simp] theorem capturesOf_nil : capturesOf [] = [] := rfl

@[simp] theorem capturesOf_cons (part : Part) (parts : List Part) :
    capturesOf (part :: parts) = capturesOf parts ++ part.tree.captures := by
  simp [capturesOf]

theorem captures_sequence (parts : List Part) :
    (sequence parts).tree.captures = capturesOf parts := by
  match parts with
  | [] => simp [sequence, Tree.captures]
  | [part] => simp [sequence]
  | first :: second :: rest =>
      simp only [sequence, Tree.captures, Tree.capturesOfAll_eq_flatMap, capturesOf,
        List.flatMap_map]

theorem captures_choice (earlier : List Part) (last : Part) :
    (choice earlier last).tree.captures = capturesOf earlier ++ last.tree.captures := by
  unfold choice
  split
  · next hempty => simp [List.isEmpty_iff.1 hempty]
  · simp only [Tree.captures, Tree.capturesOfAll_eq_flatMap, List.flatMap_map]
    exact capturesOf_cons last earlier

@[simp] theorem captures_group (kind : GroupKind) (content : Part) :
    (group kind content).tree.captures = kind.number ++ content.tree.captures := by
  cases kind <;> simp [group, Tree.captures, GroupKind.number]

@[simp] theorem captures_repeated (counts : Counts) (greedy : Bool) (operand : Part) :
    (repeated counts greedy operand).tree.captures = operand.tree.captures := by
  simp [repeated, Tree.captures]

end Part

/-! ## The steps of the reader -/

namespace Progress

inductive Move (state : Progress) (text : List Char) : Progress → Prop
  /-- A finished part is added; a flag directive may change the verbosity. -/
  | push {part : Part} (verbose : Bool) (hplain : part.tree.captures = []) :
      Move state text ({ state with verbose }.push part)
  | enter {change : FlagChange} {verbose : Bool} {next : Progress}
      (hopen : state.openGroup (.plain change) verbose = .ok next) : Move state text next
  /-- A capturing group is entered: at a parenthesis that is not followed by `?:`. -/
  | capture {name : Option String} {inner : List Char} {next : Progress}
      (htext : text = '(' :: inner) (hinner : ∀ tail, inner ≠ '?' :: ':' :: tail)
      (hopen : openCapture state name = .ok next) : Move state text next
  | leave {next : Progress} (hclose : state.closeGroup = .ok next) : Move state text next
  | branch : Move state text state.nextBranch
  | again {counts : Counts} {greedy : Bool} {next : Progress}
      (hrepeat : state.repeatLast counts greedy = .ok next) : Move state text next

end Progress

theorem skipBlank_question (verbose : Bool) (text : List Char) :
    skipBlank verbose ('?' :: text) = '?' :: text := by
  have hwhite : isWhite '?' = false := by decide
  cases verbose <;> simp [skipBlank, skipVerbose, hwhite]

variable {verbose : Bool} {c : Char} {text rest : List Char} {action : Action}

theorem readGroupAction_takes (h : readGroupAction verbose text = .ok (action, rest)) :
    TakesPart ('(' :: text) rest := by
  have behind {c : Char} {inner : List Char} (hc : c ≠ '\\') (hrest : c :: rest <:+ inner)
      (hinner : inner <:+ skipBlank verbose text) : TakesPart ('(' :: text) rest :=
    .of_suffix hc ((hrest.trans hinner).trans (skipBlank_suffix verbose text))
  cases readGroupAction_iff.1 h with
  | named htext hname =>
      obtain ⟨c, hc, hrest⟩ := readGroupName_suffix hname
      rcases htext with htext | htext
      · exact behind hc hrest (htext ▸ ⟨['?', 'P', '<'], rfl⟩)
      · exact behind hc hrest (htext ▸ ⟨['?', '<'], rfl⟩)
  | enter htext hflags =>
      exact behind (by decide) (readFlags_suffix hflags).2 (htext ▸ List.suffix_cons _ _)
  | direct htext hflags _ =>
      exact behind (by decide) (readFlags_suffix hflags).2 (htext ▸ List.suffix_cons _ _)
  | bare htext _ => exact .of_leaves (by decide) (htext ▸ leaves_skipBlank verbose text)

theorem readAction_takes (h : readAction verbose (c :: text) = .ok (action, rest)) :
    TakesPart (c :: text) rest := by
  have same {c : Char} (hc : c ≠ '\\') (hrest : text = rest) : TakesPart (c :: text) rest :=
    .of_leaves hc (hrest ▸ Leaves.refl text)
  cases readAction_iff.1 h with
  | group hgroup => exact readGroupAction_takes hgroup
  | leave hrest => exact same (by decide) hrest
  | branch hrest => exact same (by decide) hrest
  | bracket hclass _ => exact .of_suffix (by decide) (readClass_spec hclass).1
  | again hsign hlazy =>
      have hsigns : ∀ entry ∈ repetitionSigns, entry.1 ≠ '\\' := by decide
      exact .of_leaves (hsigns _ hsign) (readLazy_leaves hlazy)
  | @counted _ _ after hcounts hlazy =>
      have hafter := (leaves_skipBlank verbose after).trans (readLazy_leaves hlazy)
      exact .of_leaves (by decide)
        ((Leaves.of_suffix (by decide) (readCounts_suffix hcounts)).trans hafter)
  | escape hescape =>
      obtain rfl | ⟨d, inner, rfl, hd, hinner⟩ := readEscape_taken hescape
      · exact .inl rfl
      · have hlen : rest.length < (d :: inner).length := Nat.lt_succ_of_le hinner.suffix.length_le
        exact .inr ⟨(hinner.cons (.inl hd)).cons (.inr hlen), Nat.lt_succ_of_lt hlen⟩
  | atom hc hrest => exact same (fun heq => hc (heq ▸ by decide)) hrest

theorem readAction_suffix (h : readAction verbose (c :: text) = .ok (action, rest)) :
    rest <:+ text :=
  (readAction_takes h).suffix

theorem not_plain_of_capture {name : Option String}
    (h : readGroupAction verbose text = .ok (.capture name, rest)) (tail : List Char) :
    text ≠ '?' :: ':' :: tail := by
  rintro rfl
  cases readGroupAction_iff.1 h with
  | named htext _ =>
      rw [skipBlank_question] at htext
      simp at htext
  | bare htext hplain =>
      rw [skipBlank_question] at htext
      subst htext
      exact hplain rfl

theorem move_of_readAction {state next : Progress}
    (h : readAction state.verbose (c :: text) = .ok (action, rest))
    (hnext : action.apply state = .ok next) : state.Move (c :: text) next := by
  cases action with
  | push part =>
      cases hnext
      refine .push state.verbose ?_
      rcases part_of_readAction h with ⟨atom, rfl⟩ | ⟨negated, inner, rfl⟩ <;> rfl
  | direct change =>
      cases hnext
      exact .push _ rfl
  | enter change => exact .enter hnext
  | capture name =>
      obtain ⟨rfl, hgroup⟩ := eq_paren_of_capture h
      exact .capture rfl (not_plain_of_capture hgroup) hnext
  | leave => exact .leave hnext
  | branch =>
      cases hnext
      exact .branch
  | again counts greedy => exact .again hnext

theorem readPart_spec {state next : Progress} (h : readPart state (c :: text) = .ok (next, rest)) :
    TakesPart (c :: text) rest ∧ state.Move (c :: text) next := by
  rw [readPart_eq] at h
  obtain ⟨⟨action, after⟩, haction, h⟩ := except_bind_eq_ok h
  obtain ⟨reached, hnext, hread⟩ := except_map_eq_ok h
  cases hread
  exact ⟨readAction_takes haction, move_of_readAction haction hnext⟩

end LogPattern.Regex
