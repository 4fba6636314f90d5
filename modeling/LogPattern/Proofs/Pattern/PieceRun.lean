import LogPattern.Proofs.Pattern.Piece
import LogPattern.Proofs.Regex.Enclosure

/-!
# Reading pieces

The openers and closers of tokens are parts of their own, so pieces are read one after
the other, and a fragment's text is read up to the parenthesis behind it.  Such a run
can be made once, without the numbers of the fields, and holds for all of them.
-/

namespace LogPattern

open Regex

/-! ## Names of groups -/

def fieldGroupName (index : Nat) : String := "f" ++ toString index

theorem toString_inj {i j : Nat} (h : toString i = toString j) : i = j := by
  rw [Nat.toString_eq_repr, Nat.toString_eq_repr] at h
  have hdigits := congrArg String.toList h
  rw [Nat.toList_repr, Nat.toList_repr] at hdigits
  have hvalue := congrArg (Nat.ofDigitChars 10 · 0) hdigits
  simpa using hvalue

theorem fieldGroupName_inj {i j : Nat} (h : fieldGroupName i = fieldGroupName j) : i = j :=
  toString_inj ((String.append_right_inj _).1 h)

namespace Regex

def Progress.NamedByFields (state : Progress) : Prop :=
  ∀ name, state.names.contains name = true → ∃ index < state.captures, name = fieldGroupName index

namespace Progress.NamedByFields

variable {state next : Progress}

theorem start : Progress.start.NamedByFields := by
  intro name h
  simp [Progress.start] at h

theorem fresh (h : state.NamedByFields) :
    state.names.contains (fieldGroupName state.captures) = false := by
  rw [← Bool.not_eq_true]
  intro hmem
  obtain ⟨index, hindex, hname⟩ := h _ hmem
  exact absurd (fieldGroupName_inj hname) (by omega)

theorem of_same (h : state.NamedByFields) (hcaptures : next.captures = state.captures)
    (hnames : next.names = state.names) : next.NamedByFields := by
  intro name hmem
  rw [hnames] at hmem
  rw [hcaptures]
  exact h name hmem

theorem of_insert (h : state.NamedByFields) (hcaptures : next.captures = state.captures + 1)
    (hnames : next.names = state.names.insert (fieldGroupName state.captures)) :
    next.NamedByFields := by
  intro name hmem
  rw [hnames, Std.TreeSet.contains_insert, Bool.or_eq_true] at hmem
  rw [hcaptures]
  rcases hmem with hsame | hmem
  · exact ⟨state.captures, Nat.lt_succ_self _, by simpa using Eq.symm (by simpa using hsame)⟩
  · obtain ⟨index, hindex, hname⟩ := h name hmem
    exact ⟨index, Nat.lt_succ_of_lt hindex, hname⟩

end Progress.NamedByFields

end Regex

/-! ## Openers and closers -/

def Token.openerAction (token : Token) (index : Nat) : Action :=
  match token.field with
  | none => .enter []
  | some _ => .capture (some (fieldGroupName index))

theorem isDigit_of_mem_toString {index : Nat} {c : Char} (h : c ∈ (toString index).toList) :
    c.isDigit = true := by
  rw [Nat.toString_eq_repr, Nat.toList_repr] at h
  exact Nat.isDigit_of_mem_toDigits (by decide) (by decide) h

theorem readGroupName_field (index : Nat) (rest : List Char) :
    readGroupName ('f' :: (toString index).toList ++ '>' :: rest) =
      .ok (fieldGroupName index, rest) := by
  have hdigit {c : Char} (hc : c ∈ (toString index).toList) : c.isDigit = true :=
    isDigit_of_mem_toString hc
  refine readGroupName_iff.2 ⟨'f', (toString index).toList, rfl, ?_, by decide, ?_, ?_⟩
  · refine List.forall_mem_cons.2 ⟨by decide, fun c hc => ?_⟩
    rintro rfl
    exact absurd (hdigit hc) (by decide)
  · refine List.all_eq_true.2 fun c hc => ?_
    simp [isNameRest, hdigit hc]
  · rw [fieldGroupName, ← String.toList_inj]
    simp

namespace Piece

theorem readAction_opener (verbose : Bool) (token : Token) (index : Nat) (rest : List Char) :
    readAction verbose ((opener token).text index ++ rest) =
      .ok (token.openerAction index, rest) := by
  cases hfield : token.field with
  | none =>
      have htext : (opener token).text index ++ rest = '(' :: '?' :: ':' :: rest := by
        simp [text, hfield]
      rw [htext, Token.openerAction, hfield]
      exact readGroupAction_iff.2 (.enter (skipBlank_question verbose (':' :: rest))
        (by simp [readFlags]))
  | some name =>
      have htext : (opener token).text index ++ rest =
          '(' :: '?' :: 'P' :: '<' :: ('f' :: (toString index).toList ++ '>' :: rest) := by
        simp [text, hfield]
      rw [htext, Token.openerAction, hfield]
      exact readGroupAction_iff.2
        (.named (.inl (skipBlank_question verbose _)) (readGroupName_field index rest))

def isParenthesis : Piece → Bool
  | .opener _ => true
  | .closer => true
  | _ => false

theorem skipBlank_text (piece : Piece) (h : piece.isParenthesis = true) (verbose : Bool)
    (index : Nat) (rest : List Char) :
    ∃ c inner, piece.text index ++ rest = c :: inner ∧ Stops (c :: inner) ∧
      skipBlank verbose (c :: inner) = c :: inner := by
  have blank {c : Char} {inner : List Char} (hstops : Stops (c :: inner)) :
      skipBlank verbose (c :: inner) = c :: inner := by
    cases verbose with
    | false => rfl
    | true => exact skipVerbose_of_stops hstops
  cases piece with
  | literal content => cases h
  | fragment text => cases h
  | opener token =>
      obtain ⟨inner, hinner⟩ : ∃ inner, (opener token).text index = '(' :: inner := by
        cases hfield : token.field <;> simp [text, hfield]
      exact ⟨'(', inner ++ rest, by rw [hinner]; rfl, .inr (.inl rfl), blank (.inr (.inl rfl))⟩
  | closer => exact ⟨')', rest, rfl, .inr (.inr rfl), blank (.inr (.inr rfl))⟩

/-! ## Runs over pieces -/

/-- Read parts up to a closing parenthesis that ends the text, with `level` groups open on the way. -/
def readBefore (level : Nat) : (steps : Nat) → Progress → List Char → Option Progress
  | 0, _, _ => none
  | steps + 1, state, text =>
      if text = [')'] then some state
      else
        match skipBlank state.verbose text with
        | [] => none
        | text =>
            match readAction state.verbose text with
            | .error _ => none
            | .ok (action, rest) =>
                match action.apply state with
                | .error _ => none
                | .ok next =>
                    if level ≤ next.openGroups.length then readBefore level steps next rest
                    else none

def applyAbove (level : Nat) (state : Progress) (action : Action) : Option Progress :=
  match action.apply state with
  | .error _ => none
  | .ok next => if level ≤ next.openGroups.length then some next else none

/--
Read pieces inside a group, without names for the groups of fields.  A fragment's text
ends before a parenthesis, as it does between tokens.
-/
def readPieces : List Piece → Progress → Option Progress
  | [], state => some state
  | .literal _ :: _, _ => none
  | .fragment text :: rest, state =>
      if rest.head?.all isParenthesis then
        (readBefore 1 (text.length + 1) state (text ++ [')'])).bind fun next =>
          if next.captures = state.captures then readPieces rest next else none
      else none
  | .opener token :: rest, state =>
      (applyAbove 1 state (if token.field.isSome then .capture none else .enter [])).bind
        (readPieces rest)
  | .closer :: rest, state => (applyAbove 1 state .leave).bind (readPieces rest)

theorem reads_of_readBefore {level steps : Nat} {state final : Progress} {text : List Char}
    (h : readBefore level steps state text = some final) : state.Reads level text final [')'] := by
  induction steps generalizing state text with
  | zero => cases h
  | succ steps ih =>
      rw [readBefore] at h
      split at h
      · next htext =>
          cases h
          exact htext ▸ .stay _ _
      · split at h
        · cases h
        · next hne =>
            cases hblank : skipBlank state.verbose text with
            | nil => exact absurd hblank hne
            | cons c inner =>
                rw [hblank] at h
                split at h
                · cases h
                · next action rest haction =>
                    split at h
                    · cases h
                    · next next hnext =>
                        split at h
                        · next hlevel => exact .part hblank haction hnext hlevel (ih h)
                        · cases h

theorem applyAbove_eq_some {level : Nat} {state next : Progress} {action : Action}
    (h : applyAbove level state action = some next) :
    action.apply state = .ok next ∧ level ≤ next.openGroups.length := by
  unfold applyAbove at h
  split at h
  · cases h
  · next hnext =>
      split at h
      · next hlevel =>
          cases h
          exact ⟨hnext, hlevel⟩
      · cases h

end Piece

/-! ## Runs in place -/

def Regex.GroupKind.renumber (count : Nat) : GroupKind → GroupKind
  | .capture index _ => .capture (index + count) (some (fieldGroupName (index + count - 1)))
  | .plain change => .plain change

namespace Piece

theorem stops_textFrom (index : Nat) {pieces : List Piece} {x : List Char}
    (hhead : pieces.head?.all isParenthesis = true) (hx : Stops x) :
    Stops (textFrom index pieces ++ x) := by
  cases pieces with
  | nil => exact hx
  | cons piece rest =>
      obtain ⟨c, inner, htext, hstops, -⟩ := skipBlank_text piece (by simpa using hhead) false index
        (textFrom (index + piece.fields.length) rest ++ x)
      rw [textFrom_cons, List.append_assoc, htext]
      exact hstops

theorem reads_parenthesis (piece : Piece) (index : Nat) {action : Action} {level : Nat}
    {state next final : Progress} {rest back : List Char}
    (hpiece : piece.isParenthesis = true)
    (haction : readAction state.verbose (piece.text index ++ rest) = .ok (action, rest))
    (hnext : action.apply state = .ok next) (hlevel : level ≤ next.openGroups.length)
    (hrest : next.Reads level rest final back) :
    state.Reads level (piece.text index ++ rest) final back := by
  obtain ⟨c, inner, htext, -, hblank⟩ := skipBlank_text piece hpiece state.verbose index rest
  rw [htext] at haction ⊢
  exact .part hblank haction hnext hlevel hrest

/-- A state of a run without names, and the state of the same run in place: behind `count`
other capturing groups, each of a field, and with the names of fields. -/
structure InPlace (count : Nat) (base' : List OpenGroup) (state state' : Progress) : Prop where
  mirrors : Progress.Mirrors (GroupKind.renumber count) [.enclosure] base' state state'
  captures : state'.captures = state.captures + count
  named : state'.NamedByFields

namespace InPlace

variable {count : Nat} {base' : List OpenGroup} {state next state' next' : Progress}

theorem level (h : InPlace count base' state state') (hlevel : 1 ≤ state.openGroups.length) :
    base'.length ≤ state'.openGroups.length := by
  have hlen := h.mirrors.length_openGroups
  rw [List.length_singleton] at hlen
  omega

theorem apply {action : Action} (h : InPlace count base' state state') (hroom : base'.length ≤ 1)
    (hallows : Progress.Mirrors.Allows (GroupKind.renumber count) [.enclosure] state state' action)
    (hcapture : ∀ name, action ≠ .capture name) (hnext : action.apply state = .ok next) :
    ∃ next', action.apply state' = .ok next' ∧ InPlace count base' next next' ∧
      next'.captures = state'.captures := by
  obtain ⟨next', hnext', hm⟩ :=
    h.mirrors.exists_apply (fun _ => rfl) hallows hroom hcapture hnext
  obtain ⟨hcount, -⟩ := Action.counts_of_ne hcapture hnext
  obtain ⟨hcount', hnames'⟩ := Action.counts_of_ne hcapture hnext'
  have hcaptures : next'.captures = next.captures + count := by rw [hcount', hcount, h.captures]
  exact ⟨next', hnext', ⟨hm, hcaptures, h.named.of_same hcount' hnames'⟩, hcount'⟩

/-- The group of a field is opened under the name of the field. -/
theorem openCapture (h : InPlace count base' state state') (hroom : base'.length ≤ 1)
    (hnext : (Action.capture none).apply state = .ok next) :
    ∃ next', (Action.capture (some (fieldGroupName state'.captures))).apply state' = .ok next' ∧
      InPlace count base' next next' ∧ next'.captures = state'.captures + 1 := by
  have hlimit : state.openGroups.length < nestLimit := (Action.openGroup_inv hnext).1
  have hlen := h.mirrors.length_openGroups
  rw [List.length_singleton] at hlen
  obtain ⟨next', hnext'⟩ := Progress.exists_openCapture (some (fieldGroupName state'.captures))
    h.named.fresh (by omega)
  have happly : (Action.capture (some (fieldGroupName state'.captures))).apply state' =
    .ok next' := hnext'
  have hkind : GroupKind.renumber count (.capture (state.captures + 1) none) =
      .capture (state'.captures + 1) (some (fieldGroupName state'.captures)) := by
    have hindex : state.captures + 1 + count = state'.captures + 1 := by rw [h.captures]; omega
    simp only [GroupKind.renumber, hindex, Nat.add_sub_cancel]
  obtain ⟨hcount, -⟩ := Action.counts_of_capture hnext
  obtain ⟨hcount', hnames'⟩ := Action.counts_of_capture happly
  have hcaptures : next'.captures = next.captures + count := by
    rw [hcount', hcount, h.captures]
    omega
  exact ⟨next', happly, ⟨h.mirrors.openCapture hkind hnext hnext', hcaptures,
    h.named.of_insert hcount' hnames'⟩, hcount'⟩

theorem opener {token : Token} (h : InPlace count base' state state') (hroom : base'.length ≤ 1)
    (hnext : applyAbove 1 state (if token.field.isSome then .capture none else .enter []) =
      some next) :
    ∃ next', (∀ y, state'.Reads base'.length ((opener token).text state'.captures ++ y) next' y) ∧
      InPlace count base' next next' ∧
      next'.captures = state'.captures + (Piece.opener token).fields.length := by
  obtain ⟨hnext, hlevel⟩ := applyAbove_eq_some hnext
  obtain ⟨next', hnext', hplace, hcaptures⟩ : ∃ next',
      (token.openerAction state'.captures).apply state' = .ok next' ∧
        InPlace count base' next next' ∧
        next'.captures = state'.captures + (Piece.opener token).fields.length := by
    unfold Token.openerAction
    cases hfield : token.field with
    | none =>
        simp only [hfield, Option.isSome_none, Bool.false_eq_true, if_false] at hnext
        obtain ⟨next', hnext', hplace, hcaptures⟩ :=
          h.apply hroom ⟨by simp, by simp, by simp⟩ (by simp) hnext
        exact ⟨next', hnext', hplace, by simp [fields, Token.fieldEntry, hfield, hcaptures]⟩
    | some name =>
        simp only [hfield, Option.isSome_some, if_true] at hnext
        obtain ⟨next', hnext', hplace, hcaptures⟩ := h.openCapture hroom hnext
        exact ⟨next', hnext', hplace, by simp [fields, Token.fieldEntry, hfield, hcaptures]⟩
  refine ⟨next', fun y => ?_, hplace, hcaptures⟩
  exact reads_parenthesis _ _ rfl (readAction_opener _ _ _ _) hnext' (hplace.level hlevel) (.stay _ _)

theorem closer (h : InPlace count base' state state') (hroom : base'.length ≤ 1)
    (hnext : applyAbove 1 state .leave = some next) :
    ∃ next', (∀ y, state'.Reads base'.length (closer.text state'.captures ++ y) next' y) ∧
      InPlace count base' next next' ∧ next'.captures = state'.captures := by
  obtain ⟨hclose, hlevel⟩ := applyAbove_eq_some hnext
  obtain ⟨inner, outer, hopen, hinv⟩ := Action.closeGroup_inv hclose
  have hinside : [OpenGroup.enclosure].length < state.openGroups.length := by
    rw [hinv] at hlevel
    rw [hopen]
    exact Nat.lt_succ_of_le hlevel
  obtain ⟨next', hnext', hplace, hcaptures⟩ :=
    h.apply hroom ⟨by simp, fun _ => hinside, by simp⟩ (by simp) hclose
  refine ⟨next', fun y => ?_, hplace, hcaptures⟩
  exact reads_parenthesis _ _ rfl rfl hnext' (hplace.level hlevel) (.stay _ _)

/-- The text of a fragment that opens no capturing groups, up to a parenthesis or the end. -/
theorem fragment {text y : List Char} (h : InPlace count base' state state')
    (hroom : base'.length ≤ 1) (hy : Stops y)
    (hnext : readBefore 1 (text.length + 1) state (text ++ [')']) = some next)
    (hsame : next.captures = state.captures) :
    ∃ next', state'.Reads base'.length (text ++ y) next' y ∧
      InPlace count base' next next' ∧ next'.captures = state'.captures := by
  have hreads : state.Reads [OpenGroup.enclosure].length (text ++ y) next y :=
    (reads_of_readBefore hnext).before_stop (w := []) hy (by simp)
  obtain ⟨next', hreads', hm, hcaptures, hnames⟩ :=
    hreads.mirror (fun _ => rfl) hsame h.mirrors hroom
  exact ⟨next', hreads', ⟨hm, by rw [hcaptures, hsame, h.captures],
    h.named.of_same hcaptures hnames⟩, hcaptures⟩

end InPlace

/-- What a run without names says of the pieces behind any other capturing groups. -/
theorem reads_of_readPieces {pieces : List Piece} {count : Nat} {base' : List OpenGroup}
    {state final state' : Progress} {x : List Char} (hx : Stops x)
    (h : readPieces pieces state = some final) (hroom : base'.length ≤ 1)
    (hplace : InPlace count base' state state') :
    ∃ final', state'.Reads base'.length (textFrom state'.captures pieces ++ x) final' x ∧
      InPlace count base' final final' := by
  induction pieces generalizing state state' with
  | nil =>
      cases h
      exact ⟨state', .stay _ _, hplace⟩
  | cons piece rest ih =>
      rw [textFrom_cons, List.append_assoc]
      cases piece with
      | literal content => cases h
      | fragment text =>
          rw [readPieces] at h
          split at h
          · next hhead =>
              obtain ⟨next, hnext, h⟩ := Option.bind_eq_some_iff.1 h
              split at h
              · next hsame =>
                  obtain ⟨next', hreads, hnext', hcaptures⟩ :=
                    hplace.fragment hroom (stops_textFrom _ hhead hx) hnext hsame
                  obtain ⟨final', hrest, hfinal⟩ := ih h hnext'
                  rw [hcaptures] at hrest
                  exact ⟨final', hreads.trans hrest, hfinal⟩
              · cases h
          · cases h
      | opener token =>
          obtain ⟨next, hnext, h⟩ := Option.bind_eq_some_iff.1 h
          obtain ⟨next', hreads, hnext', hcaptures⟩ := hplace.opener hroom hnext
          obtain ⟨final', hrest, hfinal⟩ := ih h hnext'
          rw [hcaptures] at hrest
          exact ⟨final', (hreads _).trans hrest, hfinal⟩
      | closer =>
          obtain ⟨next, hnext, h⟩ := Option.bind_eq_some_iff.1 h
          obtain ⟨next', hreads, hnext', hcaptures⟩ := hplace.closer hroom hnext
          obtain ⟨final', hrest, hfinal⟩ := ih h hnext'
          rw [hcaptures] at hrest
          exact ⟨final', (hreads _).trans hrest, hfinal⟩

end Piece

end LogPattern
