import LogPattern.Proofs.Regex.ClassRun
import Mathlib.Data.List.TakeWhile

/-!
# Parts as actions

What a part says depends on its text alone, and what it does to the progress depends on
the progress alone: reading a part is reading an action and applying it.  So facts about
text are proved without looking at open groups, and the other way round.  The readers of
openers and of parts are opened here only: later facts go through the forms of an action.
-/

namespace LogPattern.Regex

def FlagChange.verbosity (change : FlagChange) (verbose : Bool) : Bool :=
  (change.value? .verbose).getD verbose

/-- What a part asks for. -/
inductive Action where
  | push (part : Part)
  /-- A flag directive, which is a part of its own and may change the verbosity. -/
  | direct (change : FlagChange)
  | enter (change : FlagChange)
  | capture (name : Option String)
  | leave
  | branch
  | again (counts : Counts) (greedy : Bool)

namespace Action

def apply (state : Progress) : Action → Except Fault Progress
  | push part => .ok (state.push part)
  | direct change =>
      .ok ({ state with verbose := change.verbosity state.verbose }.push ⟨.flags change, 0⟩)
  | enter change => state.openGroup (.plain change) (change.verbosity state.verbose)
  | capture name => openCapture state name
  | leave => state.closeGroup
  | branch => .ok state.nextBranch
  | again counts greedy => state.repeatLast counts greedy

end Action

def readGroupAction (verbose : Bool) (text : List Char) : Except Fault (Action × List Char) :=
  match skipBlank verbose text with
  | '?' :: '=' :: _ => .error .lookAround
  | '?' :: '!' :: _ => .error .lookAround
  | '?' :: '<' :: '=' :: _ => .error .lookAround
  | '?' :: '<' :: '!' :: _ => .error .lookAround
  | '?' :: 'P' :: '<' :: rest => (readGroupName rest).map fun (name, rest) =>
      (.capture (some name), rest)
  | '?' :: '<' :: rest => (readGroupName rest).map fun (name, rest) =>
      (.capture (some name), rest)
  | '?' :: rest => do
      let (change, stop, rest) ← readFlags false false [] rest
      if stop = ':' then return (.enter change, rest)
      else if change.isEmpty then throw .nothingToRepeat
      else return (.direct change, rest)
  | text => .ok (.capture none, text)

def readRepetition (counts : Counts) (text : List Char) : Action × List Char :=
  let (greedy, rest) := readLazy text
  (.again counts greedy, rest)

def readAction (verbose : Bool) : List Char → Except Fault (Action × List Char)
  | [] => .error .groupNotOpened
  | '(' :: rest => readGroupAction verbose rest
  | ')' :: rest => .ok (.leave, rest)
  | '|' :: rest => .ok (.branch, rest)
  | '[' :: rest => do
      let (tree, rest) ← readClass verbose rest
      let depth := match tree with
        | .bracketed _ inner => inner.depth + 1
        | _ => 0
      return (.push (← Part.checkDepth ⟨tree, depth⟩), rest)
  | '?' :: rest => .ok (readRepetition ⟨0, some 1⟩ rest)
  | '*' :: rest => .ok (readRepetition ⟨0, none⟩ rest)
  | '+' :: rest => .ok (readRepetition ⟨1, none⟩ rest)
  | '{' :: rest => do
      let (counts, rest) ← readCounts verbose rest
      return readRepetition counts (skipBlank verbose rest)
  | '\\' :: rest => do
      let (atom, rest) ← readEscape verbose rest
      return (.push (.ofAtom atom), rest)
  | '.' :: rest => .ok (.push (.ofAtom .dot), rest)
  | '^' :: rest => .ok (.push (.ofAtom (.assertion .lineStart)), rest)
  | '$' :: rest => .ok (.push (.ofAtom (.assertion .lineEnd)), rest)
  | c :: rest => .ok (.push (.ofAtom (.char c false)), rest)

def runAction (state : Progress) (read : Action × List Char) :
    Except Fault (Progress × List Char) :=
  (read.1.apply state).map (·, read.2)

theorem readGroup_eq (state : Progress) (text : List Char) :
    readGroup state text = (readGroupAction state.verbose text).bind (runAction state) := by
  unfold readGroup readGroupAction
  generalize skipBlank state.verbose text = inner
  split
  · rfl
  · rfl
  · rfl
  · rfl
  · next rest =>
      simp only
      cases readGroupName rest <;> rfl
  · next rest _ _ =>
      simp only
      cases readGroupName rest <;> rfl
  · next rest _ _ _ _ _ _ =>
      simp only
      cases readFlags false false [] rest with
      | error fault => rfl
      | ok read =>
          obtain ⟨change, stop, after⟩ := read
          by_cases hstop : stop = ':'
          · rw [hstop]
            rfl
          · cases hchange : change.isEmpty with
            | true =>
                simp only [hstop, hchange, bind, Except.bind]
                rfl
            | false =>
                simp only [hstop, hchange, bind, Except.bind]
                rfl
  · try simp only
    rfl

theorem readPart_eq (state : Progress) (c : Char) (text : List Char) :
    readPart state (c :: text) =
      (readAction state.verbose (c :: text)).bind (runAction state) := by
  unfold readPart readAction
  split
  · next heq => cases heq
  · next heq =>
      cases heq
      simp only [readGroup_eq]
  · next heq =>
      cases heq
      rfl
  · next heq =>
      cases heq
      rfl
  · next heq =>
      cases heq
      simp only
      cases readClass state.verbose text with
      | error fault => rfl
      | ok read =>
          obtain ⟨tree, after⟩ := read
          simp only [bind, Except.bind]
          generalize Part.checkDepth _ = checked
          cases checked <;> rfl
  · next heq =>
      cases heq
      rfl
  · next heq =>
      cases heq
      rfl
  · next heq =>
      cases heq
      rfl
  · next heq =>
      cases heq
      simp only
      cases readCounts state.verbose text <;> rfl
  · next heq =>
      cases heq
      simp only
      cases readEscape state.verbose text <;> rfl
  · next heq =>
      cases heq
      rfl
  · next heq =>
      cases heq
      rfl
  · next heq =>
      cases heq
      rfl
  · next heq =>
      cases heq
      try simp only
      rfl

variable {verbose : Bool} {text rest : List Char} {action : Action}

/-! ## Openers -/

theorem readGroupName_iff {name : String} :
    readGroupName text = .ok (name, rest) ↔
      ∃ first more, text = first :: more ++ '>' :: rest ∧ (∀ c ∈ first :: more, c ≠ '>') ∧
        isNameStart first = true ∧ more.all isNameRest = true ∧
        name = String.ofList (first :: more) := by
  constructor
  · intro h
    unfold readGroupName at h
    split at h
    · next first more c back hspan =>
        split at h
        · next hname =>
            obtain ⟨rfl, rfl⟩ := Prod.mk.inj (Except.ok.inj h)
            obtain ⟨hstart, hrest⟩ := Bool.and_eq_true_iff.1 hname
            rw [List.span_eq_takeWhile_dropWhile] at hspan
            obtain ⟨hfront, hback⟩ := Prod.mk.inj hspan
            have htext := List.takeWhile_append_dropWhile (p := (· != '>')) (l := text)
            have hc : c = '>' := by
              have hhead := List.head?_dropWhile_not (· != '>') text
              rw [hback] at hhead
              simpa using hhead
            rw [hfront, hback, hc] at htext
            refine ⟨first, more, htext.symm, fun d hd => ?_, hstart, hrest, rfl⟩
            have hmem := List.mem_takeWhile_imp (hfront ▸ hd)
            simpa using hmem
        · cases h
    · cases h
  · rintro ⟨first, more, rfl, hname, hstart, hrest, rfl⟩
    have hpass : ∀ c ∈ first :: more, (c != '>') = true := fun c hc => by simpa using hname c hc
    have hspan : (first :: more ++ '>' :: rest).span (· != '>') = (first :: more, '>' :: rest) := by
      rw [List.span_eq_takeWhile_dropWhile, List.takeWhile_append_of_pos hpass,
        List.dropWhile_append_of_pos hpass]
      simp
    unfold readGroupName
    rw [hspan]
    simp [hstart, hrest]

theorem head?_of_readGroupName {name : String} (h : readGroupName text = .ok (name, rest)) :
    text.head? ≠ some '=' ∧ text.head? ≠ some '!' := by
  have hequals : isNameStart '=' = false := by decide +kernel
  have hbang : isNameStart '!' = false := by decide +kernel
  obtain ⟨first, more, rfl, -, hstart, -⟩ := readGroupName_iff.1 h
  constructor
  · intro hhead
    obtain rfl : first = '=' := by simpa using hhead
    simp [hequals] at hstart
  · intro hhead
    obtain rfl : first = '!' := by simpa using hhead
    simp [hbang] at hstart

theorem head?_of_readFlags {change : FlagChange} {stop : Char} {text rest : List Char}
    (h : readFlags false false [] text = .ok (change, stop, rest)) {c : Char}
    (hc : c ∈ ['=', '!', '<', 'P']) : text.head? ≠ some c := by
  intro hhead
  obtain ⟨tail, rfl⟩ := List.head?_eq_some_iff.1 hhead
  simp only [List.mem_cons, List.not_mem_nil, or_false] at hc
  rcases hc with rfl | rfl | rfl | rfl <;> simp [readFlags, flagOfLetter?] at h

theorem readGroupAction_of_flags {change : FlagChange} {stop : Char}
    {text inner rest : List Char} (htext : skipBlank verbose text = '?' :: inner)
    (hflags : readFlags false false [] inner = .ok (change, stop, rest)) :
    readGroupAction verbose text =
      if stop = ':' then .ok (.enter change, rest)
      else if change.isEmpty then .error .nothingToRepeat
      else .ok (.direct change, rest) := by
  have hhead {c : Char} {tail : List Char} (hc : c ∈ ['=', '!', '<', 'P']) : inner ≠ c :: tail := by
    rintro rfl
    exact head?_of_readFlags hflags hc rfl
  unfold readGroupAction
  rw [htext]
  split
  · next heq => exact absurd (List.cons.inj heq).2 (hhead (by simp))
  · next heq => exact absurd (List.cons.inj heq).2 (hhead (by simp))
  · next heq => exact absurd (List.cons.inj heq).2 (hhead (by simp))
  · next heq => exact absurd (List.cons.inj heq).2 (hhead (by simp))
  · next heq => exact absurd (List.cons.inj heq).2 (hhead (by simp))
  · next heq => exact absurd (List.cons.inj heq).2 (hhead (by simp))
  · next heq =>
      cases heq
      simp only [hflags, bind, Except.bind]
      split
      · rfl
      · split <;> rfl
  · next hplain => exact absurd rfl (hplain inner)

theorem readGroupAction_of_name {name : String} {inner : List Char}
    (htext : skipBlank verbose text = '?' :: 'P' :: '<' :: inner ∨
      skipBlank verbose text = '?' :: '<' :: inner)
    (hname : readGroupName inner = .ok (name, rest)) :
    readGroupAction verbose text = .ok (.capture (some name), rest) := by
  obtain ⟨hequals, hbang⟩ := head?_of_readGroupName hname
  unfold readGroupAction
  rcases htext with htext | htext
  · simp only [htext, hname]
    rfl
  · rw [htext]
    split
    · next heq => simp at heq
    · next heq => simp at heq
    · next heq =>
        cases heq
        exact absurd rfl hequals
    · next heq =>
        cases heq
        exact absurd rfl hbang
    · next heq => simp at heq
    · next heq =>
        cases heq
        rw [hname]
        rfl
    · next hnamed heq =>
        cases heq
        exact absurd rfl (hnamed inner)
    · next hnamed heq => exact absurd rfl (heq _)

/-- The three kinds of opener, and the directive. -/
inductive GroupAction (verbose : Bool) (text : List Char) (rest : List Char) : Action → Prop
  | named {inner : List Char} {name : String}
      (htext : skipBlank verbose text = '?' :: 'P' :: '<' :: inner ∨
        skipBlank verbose text = '?' :: '<' :: inner)
      (hname : readGroupName inner = .ok (name, rest)) : GroupAction verbose text rest
        (.capture (some name))
  | enter {inner : List Char} {change : FlagChange} (htext : skipBlank verbose text = '?' :: inner)
      (hflags : readFlags false false [] inner = .ok (change, ':', rest)) :
      GroupAction verbose text rest (.enter change)
  | direct {inner : List Char} {change : FlagChange} (htext : skipBlank verbose text = '?' :: inner)
      (hflags : readFlags false false [] inner = .ok (change, ')', rest))
      (hchange : change.isEmpty = false) : GroupAction verbose text rest (.direct change)
  | bare (htext : skipBlank verbose text = rest) (hplain : rest.head? ≠ some '?') :
      GroupAction verbose text rest (.capture none)

theorem readGroupAction_iff :
    readGroupAction verbose text = .ok (action, rest) ↔ GroupAction verbose text rest action := by
  constructor
  · intro h
    unfold readGroupAction at h
    split at h
    · cases h
    · cases h
    · cases h
    · cases h
    · next inner hblank =>
        obtain ⟨⟨name, after⟩, hname, hread⟩ := except_map_eq_ok h
        cases hread
        exact .named (.inl hblank) hname
    · next inner _ _ hblank =>
        obtain ⟨⟨name, after⟩, hname, hread⟩ := except_map_eq_ok h
        cases hread
        exact .named (.inr hblank) hname
    · next inner _ _ _ _ _ _ hblank =>
        obtain ⟨⟨change, stop, after⟩, hflags, h⟩ := except_bind_eq_ok h
        dsimp only at h
        split at h
        · next hstop =>
            cases h
            exact .enter hblank (hstop ▸ hflags)
        · next hstop =>
            split at h
            · cases h
            · next hchange =>
                cases h
                have hclose := (readFlags_suffix hflags).1.resolve_left hstop
                exact .direct hblank (hclose ▸ hflags) (by simpa using hchange)
    · next hplain =>
        cases h
        refine .bare rfl fun hhead => ?_
        obtain ⟨inner, hinner⟩ := List.head?_eq_some_iff.1 hhead
        exact hplain _ hinner
  · intro h
    cases h with
    | named htext hname => exact readGroupAction_of_name htext hname
    | enter htext hflags =>
        rw [readGroupAction_of_flags htext hflags]
        rfl
    | direct htext hflags hchange =>
        rw [readGroupAction_of_flags htext hflags]
        simp [hchange]
    | bare htext hplain =>
        subst htext
        unfold readGroupAction
        split
        all_goals first
          | rfl
          | (next heq => rw [heq] at hplain; simp at hplain)

/-! ## Parts -/

theorem Part.eq_of_checkDepth {part part' : Part} (h : part.checkDepth = .ok part') :
    part' = part := by
  unfold checkDepth at h
  split at h <;> cases h
  rfl

theorem Part.le_of_checkDepth {part part' : Part} (h : part.checkDepth = .ok part') :
    part.depth ≤ nestLimit := by
  unfold checkDepth at h
  split at h
  · assumption
  · cases h

/-- The characters that are no unit on their own. -/
def syntaxSigns : List Char := ['(', ')', '|', '[', '?', '*', '+', '{', '\\']

def repetitionSigns : List (Char × Counts) :=
  [('?', ⟨0, some 1⟩), ('*', ⟨0, none⟩), ('+', ⟨1, none⟩)]

def Atom.ofChar : Char → Atom
  | '.' => .dot
  | '^' => .assertion .lineStart
  | '$' => .assertion .lineEnd
  | c => .char c false

/-- What a part asks for that begins with a character: `text` stands behind it. -/
inductive PartAction (verbose : Bool) (text rest : List Char) : Char → Action → Prop
  | group {action : Action} (hgroup : readGroupAction verbose text = .ok (action, rest)) :
      PartAction verbose text rest '(' action
  | leave (hrest : text = rest) : PartAction verbose text rest ')' .leave
  | branch (hrest : text = rest) : PartAction verbose text rest '|' .branch
  | bracket {negated : Bool} {inner : ClassTree}
      (hclass : readClass verbose text = .ok (.bracketed negated inner, rest))
      (hdepth : inner.depth + 1 ≤ nestLimit) : PartAction verbose text rest '['
        (.push ⟨.bracketed negated inner, inner.depth + 1⟩)
  | again {sign : Char} {counts : Counts} {greedy : Bool}
      (hsign : (sign, counts) ∈ repetitionSigns) (hlazy : readLazy text = (greedy, rest)) :
      PartAction verbose text rest sign (.again counts greedy)
  | counted {counts : Counts} {greedy : Bool} {after : List Char}
      (hcounts : readCounts verbose text = .ok (counts, after))
      (hlazy : readLazy (skipBlank verbose after) = (greedy, rest)) :
      PartAction verbose text rest '{' (.again counts greedy)
  | escape {atom : Atom} (hescape : readEscape verbose text = .ok (atom, rest)) :
      PartAction verbose text rest '\\' (.push (.ofAtom atom))
  | atom {c : Char} (hc : c ∉ syntaxSigns) (hrest : text = rest) :
      PartAction verbose text rest c (.push (.ofAtom (.ofChar c)))

theorem Atom.ofChar_eq {c : Char} (hdot : c ≠ '.') (hcaret : c ≠ '^') (hdollar : c ≠ '$') :
    ofChar c = .char c false := by
  unfold ofChar
  split <;> first | contradiction | rfl

theorem readRepetition_eq_iff {counts : Counts} :
    readRepetition counts text = (action, rest) ↔
      ∃ greedy, readLazy text = (greedy, rest) ∧ action = .again counts greedy := by
  unfold readRepetition
  constructor
  · intro h
    obtain ⟨rfl, rfl⟩ := Prod.mk.inj h
    exact ⟨(readLazy text).1, rfl, rfl⟩
  · rintro ⟨greedy, hlazy, rfl⟩
    rw [hlazy]

theorem readAction_of_atom (verbose : Bool) {c : Char} (hc : c ∉ syntaxSigns) (text : List Char) :
    readAction verbose (c :: text) = .ok (.push (.ofAtom (.ofChar c)), text) := by
  rw [readAction.eq_def]
  split
  case h_1 heq => cases heq
  case h_11 heq | h_12 heq | h_13 heq =>
    cases heq
    rfl
  case h_14 hdot hcaret hdollar heq =>
    cases heq
    rw [Atom.ofChar_eq hdot hcaret hdollar]
  all_goals
    rename_i heq
    cases heq
    exact absurd (by decide) hc

/-- The forms are all that a part can ask for, and each of them is read. -/
theorem readAction_iff {c : Char} :
    readAction verbose (c :: text) = .ok (action, rest) ↔ PartAction verbose text rest c action := by
  constructor
  · intro h
    by_cases hc : c ∈ syntaxSigns
    · simp only [syntaxSigns, List.mem_cons, List.not_mem_nil, or_false] at hc
      rcases hc with rfl | rfl | rfl | rfl | rfl | rfl | rfl | rfl | rfl
      · exact .group h
      · cases h
        exact .leave rfl
      · cases h
        exact .branch rfl
      · obtain ⟨⟨tree, after⟩, hclass, h⟩ := except_bind_eq_ok h
        obtain ⟨part, hdepth, h⟩ := except_bind_eq_ok h
        cases h
        obtain ⟨-, negated, inner, rfl⟩ := readClass_spec hclass
        rw [Part.eq_of_checkDepth hdepth]
        exact .bracket hclass (Part.le_of_checkDepth hdepth)
      · obtain ⟨greedy, hlazy, rfl⟩ := readRepetition_eq_iff.1 (Except.ok.inj h)
        exact .again (by simp [repetitionSigns]) hlazy
      · obtain ⟨greedy, hlazy, rfl⟩ := readRepetition_eq_iff.1 (Except.ok.inj h)
        exact .again (by simp [repetitionSigns]) hlazy
      · obtain ⟨greedy, hlazy, rfl⟩ := readRepetition_eq_iff.1 (Except.ok.inj h)
        exact .again (by simp [repetitionSigns]) hlazy
      · obtain ⟨⟨counts, after⟩, hcounts, h⟩ := except_bind_eq_ok h
        obtain ⟨greedy, hlazy, rfl⟩ := readRepetition_eq_iff.1 (Except.ok.inj h)
        exact .counted hcounts hlazy
      · obtain ⟨⟨atom, after⟩, hescape, h⟩ := except_bind_eq_ok h
        cases h
        exact .escape hescape
    · rw [readAction_of_atom verbose hc] at h
      cases h
      exact .atom hc rfl
  · intro h
    cases h with
    | group hgroup => exact hgroup
    | leave hrest =>
        subst hrest
        rfl
    | branch hrest =>
        subst hrest
        rfl
    | bracket hclass hdepth =>
        simp only [readAction, hclass, bind, Except.bind, Part.checkDepth, if_pos hdepth]
        rfl
    | again hsign hlazy =>
        simp only [repetitionSigns, List.mem_cons, List.not_mem_nil, or_false, Prod.mk.injEq] at hsign
        rcases hsign with ⟨rfl, rfl⟩ | ⟨rfl, rfl⟩ | ⟨rfl, rfl⟩
        all_goals exact congrArg Except.ok (readRepetition_eq_iff.2 ⟨_, hlazy, rfl⟩)
    | counted hcounts hlazy =>
        simp only [readAction, hcounts, bind, Except.bind, readRepetition, hlazy]
        rfl
    | escape hescape =>
        simp only [readAction, hescape, bind, Except.bind]
        rfl
    | atom hc hrest =>
        subst hrest
        exact readAction_of_atom verbose hc text

theorem part_of_readAction {c : Char} {part : Part}
    (h : readAction verbose (c :: text) = .ok (.push part, rest)) :
    (∃ atom, part = .ofAtom atom) ∨
      ∃ negated inner, part = ⟨.bracketed negated inner, inner.depth + 1⟩ := by
  cases readAction_iff.1 h with
  | group hgroup => cases readGroupAction_iff.1 hgroup
  | bracket _ _ => exact .inr ⟨_, _, rfl⟩
  | escape _ => exact .inl ⟨_, rfl⟩
  | atom _ _ => exact .inl ⟨_, rfl⟩

theorem eq_paren_of_capture {c : Char} {name : Option String}
    (h : readAction verbose (c :: text) = .ok (.capture name, rest)) :
    c = '(' ∧ readGroupAction verbose text = .ok (.capture name, rest) := by
  cases readAction_iff.1 h with
  | group hgroup => exact ⟨rfl, hgroup⟩

/-! ## Complete expressions -/

theorem Progress.finish_eq_ok_iff {state : Progress} {tree : Tree} :
    state.finish = .ok tree ↔
      state.openGroups = [] ∧ state.content.depth ≤ nestLimit ∧ tree = state.content.tree := by
  constructor
  · intro h
    unfold finish at h
    split at h
    · next hclosed =>
        obtain ⟨part, hcheck, rfl⟩ := except_map_eq_ok h
        rw [Part.eq_of_checkDepth hcheck]
        exact ⟨List.isEmpty_iff.1 hclosed, Part.le_of_checkDepth hcheck, rfl⟩
    · cases h
  · rintro ⟨hclosed, hdepth, rfl⟩
    simp [finish, hclosed, Part.checkDepth, hdepth, Except.map]

theorem Tree.ofText?_eq_ok_iff {tree : Tree} :
    Tree.ofText? text = .ok tree ↔
      ∃ final, readParts text.length .start text = .ok final ∧ final.openGroups = [] ∧
        final.content.depth ≤ nestLimit ∧ tree = final.content.tree := by
  unfold Tree.ofText?
  cases readParts text.length .start text with
  | error fault => simp
  | ok final => simp [Progress.finish_eq_ok_iff]

end LogPattern.Regex
