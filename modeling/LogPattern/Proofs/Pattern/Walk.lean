import LogPattern.Proofs.Pattern.References

/-!
# Expansion step by step

The recursive definition of an expansion counts down how many names may still come, and
hands every call a chain of its own.  A walk does without both.  It has one chain of
names, to which a call adds and from which a return takes away, and beside it what is
left of the text and of every fragment under way; the limit is only compared with the
length of the chain.

A walk goes on by one segment, one check of the length or one return at a time.  From
the start of a text it finishes with the very expansion, or the very error, that the
recursive definition answers.
-/

namespace LogPattern

namespace Expansion

/-- Where a walk through a text and its fragments stands. -/
structure Walk where
  expansion : Expansion
  /-- The names being expanded, the innermost first. -/
  chain : List String
  /-- The offset of the last token of the text that was called. -/
  position : Nat
  /-- What is left of the text. -/
  top : List Segment
  /-- Nothing of the text has been expanded yet. -/
  first : Bool
  /-- What is left of each fragment under way, the innermost first. -/
  frames : List (List Segment)
  /-- The length is to be checked before anything else. -/
  due : Bool

inductive Turn
  | goesOn (walk : Walk)
  | ended (result : Except CompileError Expansion)

def Turn.after (result : Except CompileError Expansion) (turn : Expansion → Turn) : Turn :=
  match result with
  | .error e => .ended (.error e)
  | .ok expansion => turn expansion

theorem Turn.after_map (result : Except CompileError Expansion) (change : Expansion → Expansion)
    (turn : Expansion → Turn) :
    Turn.after (result.map change) turn =
      .after result fun expansion => turn (change expansion) := by
  cases result <;> rfl

theorem Turn.after_eq_goesOn {result : Except CompileError Expansion}
    {walk : Expansion → Walk} {walk' : Walk}
    (h : (Turn.after result fun expansion => .goesOn (walk expansion)) = .goesOn walk') :
    ∃ expansion, result = .ok expansion ∧ walk expansion = walk' := by
  cases result with
  | error e => cases h
  | ok expansion =>
      cases h
      exact ⟨expansion, rfl, rfl⟩

theorem Turn.after_ended (result : Except CompileError Expansion) :
    (Turn.after result fun expansion => .ended (.ok expansion)) = .ended result := by
  cases result <;> rfl

namespace Walk

def start (text : String) : Walk := ⟨.start, [], 0, segments text, true, [], false⟩

def begin (text : String) : Turn :=
  if text.isEmpty then .ended (.error .emptyPattern) else .goesOn (start text)

/-- Call a token: refuse it, or open its group and begin with its fragment. -/
def call (lookup : Lookup) (maxDepth : Nat) (token : Token) (walk : Walk) : Turn :=
  match if isPatternName token.name then lookup token.name else none with
  | none => .ended (.error (.unknownReference token.name walk.position))
  | some fragment =>
      if walk.chain.contains token.name then
        .ended (.error (.cyclicReference (token.name :: walk.chain).reverse))
      else if maxDepth ≤ walk.chain.length then
        .ended (.error (.tooDeep maxDepth token.name))
      else
        .goesOn { walk with
          expansion := walk.expansion.openToken token
          chain := token.name :: walk.chain
          frames := segments fragment :: walk.frames }

/--
One step.  A fragment at its end returns: its name leaves the chain, and its group is
closed.  In a fragment the length is checked after each segment, in the text only after
each literal.
-/
def next (lookup : Lookup) (maxDepth : Nat) (walk : Walk) : Turn :=
  if walk.due then
    .after (walk.expansion.checkLength walk.chain) fun expansion =>
      .goesOn { walk with expansion, due := false }
  else
    match walk.frames, walk.top with
    | [], [] => .ended (.ok walk.expansion)
    | [], .literal text :: top =>
        let literal := AnchoredLiteral.ofText text.toList walk.first top.isEmpty
        .goesOn { walk with
          expansion := walk.expansion.append literal.regexText
          top, first := false, due := true }
    | [], .token token :: top =>
        call lookup maxDepth token { walk with position := token.offset, top, first := false }
    | [] :: frames, _ =>
        .goesOn { walk with
          expansion := walk.expansion.append [')']
          chain := walk.chain.tail
          frames, due := !frames.isEmpty }
    | (.literal text :: row) :: frames, _ =>
        .goesOn { walk with
          expansion := walk.expansion.append (neutralizeGroups text.toList)
          frames := row :: frames, due := true }
    | (.token token :: row) :: frames, _ =>
        call lookup maxDepth token { walk with frames := row :: frames }

def called? (walk : Walk) : Option Token :=
  if walk.due then none
  else
    match walk.frames, walk.top with
    | [], .token token :: _ => some token
    | (.token token :: _) :: _, _ => some token
    | _, _ => none

end Walk

/--
The one turn leads to the other by finitely many steps, each of a walk with at least
`level` fragments under way.
-/
inductive Leads (lookup : Lookup) (maxDepth level : Nat) : Turn → Turn → Prop
  | refl (turn : Turn) : Leads lookup maxDepth level turn turn
  | step {walk : Walk} {turn : Turn} (hlevel : level ≤ walk.frames.length)
      (h : Leads lookup maxDepth level (walk.next lookup maxDepth) turn) :
      Leads lookup maxDepth level (.goesOn walk) turn

/-- After finitely many steps the walk ends with the result. -/
def Finishes (lookup : Lookup) (maxDepth : Nat) (turn : Turn)
    (result : Except CompileError Expansion) : Prop :=
  Leads lookup maxDepth 0 turn (.ended result)

def IsReached (lookup : Lookup) (maxDepth : Nat) (text : String) (walk : Walk) : Prop :=
  Leads lookup maxDepth 0 (Walk.begin text) (.goesOn walk)

namespace Leads

variable {lookup : Lookup} {maxDepth level : Nat} {turn turn' turn'' : Turn}

theorem trans (h : Leads lookup maxDepth level turn turn')
    (h' : Leads lookup maxDepth level turn' turn'') : Leads lookup maxDepth level turn turn'' := by
  induction h with
  | refl => exact h'
  | step hlevel _ ih => exact .step hlevel (ih h')

/-- What every step keeps holds wherever a turn leads that begins with it. -/
theorem preserves {P : Walk → Prop} {back : Walk}
    (h : Leads lookup maxDepth level turn (.goesOn back))
    (hstep : ∀ walk walk', level ≤ walk.frames.length →
      walk.next lookup maxDepth = .goesOn walk' → P walk → P walk')
    (hturn : ∀ walk, turn = .goesOn walk → P walk) : P back := by
  generalize hlast : Turn.goesOn back = last at h
  induction h with
  | refl turn => exact hturn back hlast.symm
  | @step walk _ hlevel _ ih =>
      refine ih (fun walk' hnext => ?_) hlast
      exact hstep walk walk' hlevel hnext (hturn walk rfl)

theorem next {walk : Walk} (h : Leads lookup maxDepth level turn (.goesOn walk))
    (hlevel : level ≤ walk.frames.length) :
    Leads lookup maxDepth level turn (walk.next lookup maxDepth) :=
  h.trans (.step hlevel (.refl _))

theorem bind {now : Except CompileError Expansion}
    {later : Expansion → Except CompileError Expansion} {middle last : Expansion → Turn}
    (h : Leads lookup maxDepth level turn (.after now middle))
    (hlater : ∀ expansion, Leads lookup maxDepth level (middle expansion)
      (.after (later expansion) last)) :
    Leads lookup maxDepth level turn (.after (now.bind later) last) := by
  cases now with
  | error e => exact h
  | ok expansion => exact h.trans (hlater expansion)

end Leads

/-- A walk ends in one way only. -/
theorem Finishes.unique {lookup : Lookup} {maxDepth : Nat} {turn : Turn}
    {result result' : Except CompileError Expansion} (h : Finishes lookup maxDepth turn result)
    (h' : Finishes lookup maxDepth turn result') : result = result' := by
  unfold Finishes at h
  generalize hlast : Turn.ended result = last at h
  induction h with
  | refl turn =>
      subst hlast
      cases h'
      rfl
  | step _ _ ih =>
      cases h' with
      | step _ h' => exact ih h' hlast

/-- Take `count` steps at most, and none of a walk with fewer than `level` fragments under way. -/
def Turn.advance (lookup : Lookup) (maxDepth level : Nat) : Nat → Turn → Turn
  | count + 1, .goesOn walk =>
      if level ≤ walk.frames.length then
        advance lookup maxDepth level count (walk.next lookup maxDepth)
      else .goesOn walk
  | _, turn => turn

theorem leads_advance (lookup : Lookup) (maxDepth level count : Nat) (turn : Turn) :
    Leads lookup maxDepth level turn (turn.advance lookup maxDepth level count) := by
  induction count generalizing turn with
  | zero => exact .refl turn
  | succ count ih =>
      cases turn with
      | ended result => exact .refl _
      | goesOn walk =>
          rw [Turn.advance]
          split
          · next hlevel => exact .step hlevel (ih _)
          · exact .refl _

def Turn.meets (condition : Walk → Bool) : Turn → Bool
  | .goesOn walk => condition walk
  | .ended _ => false

theorem exists_of_advance {lookup : Lookup} {maxDepth level count : Nat} {turn : Turn}
    {condition : Walk → Bool}
    (h : (turn.advance lookup maxDepth level count).meets condition = true) :
    ∃ walk, Leads lookup maxDepth level turn (.goesOn walk) ∧ condition walk = true := by
  have hleads := leads_advance lookup maxDepth level count turn
  cases hturn : turn.advance lookup maxDepth level count with
  | ended result =>
      rw [hturn] at h
      cases h
  | goesOn walk =>
      rw [hturn] at h hleads
      exact ⟨walk, hleads, h⟩

/-! ## Calls -/

namespace Walk

section Call

variable {lookup : Lookup} {maxDepth : Nat} {token : Token} {walk walk' : Walk}

theorem call_of_full (h : IsKnown lookup token.name) (hmem : token.name ∉ walk.chain)
    (hfull : maxDepth ≤ walk.chain.length) :
    call lookup maxDepth token walk = .ended (.error (.tooDeep maxDepth token.name)) := by
  obtain ⟨fragment, -, hsome⟩ := exists_fragment_of_isKnown h
  rw [call, hsome]
  simp [hmem, hfull]

/-- A call is refused for the same reasons as a token, and with the same errors. -/
theorem call_of_refusal {e : CompileError}
    (h : Refusal lookup maxDepth walk.position token.name walk.chain e) :
    call lookup maxDepth token walk = .ended (.error e) := by
  cases h with
  | unknown hname => rw [call, no_fragment_of_not_isKnown hname]
  | cyclic hname hagain =>
      obtain ⟨fragment, -, hsome⟩ := exists_fragment_of_isKnown hname
      rw [call, hsome]
      simp [hagain]
  | tooDeep hname hfresh hfull => exact call_of_full hname hfresh hfull.ge

theorem call_of_fresh {fragment : String} (h : IsKnown lookup token.name)
    (hfragment : lookup token.name = some fragment) (hmem : token.name ∉ walk.chain)
    (hroom : walk.chain.length < maxDepth) :
    call lookup maxDepth token walk =
      .goesOn { walk with
        expansion := walk.expansion.openToken token
        chain := token.name :: walk.chain
        frames := segments fragment :: walk.frames } := by
  have hfresh : walk.chain.contains token.name = false := by simpa using hmem
  rw [call, if_pos h.1, hfragment]
  simp only [hfresh, Bool.false_eq_true, if_false]
  rw [if_neg (by omega)]

theorem call_ended {result : Except CompileError Expansion}
    (h : call lookup maxDepth token walk = .ended result) : ∃ e, result = .error e := by
  unfold call at h
  split at h
  · cases h
    exact ⟨_, rfl⟩
  · split at h
    · cases h
      exact ⟨_, rfl⟩
    · split at h
      · cases h
        exact ⟨_, rfl⟩
      · cases h

/-- A call that is not refused puts a known name on the chain that was not there. -/
theorem call_inv (h : call lookup maxDepth token walk = .goesOn walk') :
    IsKnown lookup token.name ∧ token.name ∉ walk.chain ∧ walk.chain.length < maxDepth ∧
      walk'.chain = token.name :: walk.chain ∧
      walk'.frames.length = walk.frames.length + 1 := by
  by_cases hknown : IsKnown lookup token.name
  swap
  · rw [call_of_refusal (.unknown hknown)] at h
    cases h
  by_cases hmem : token.name ∈ walk.chain
  · rw [call_of_refusal (.cyclic hknown hmem)] at h
    cases h
  by_cases hroom : walk.chain.length < maxDepth
  · obtain ⟨fragment, hfragment, -⟩ := exists_fragment_of_isKnown hknown
    rw [call_of_fresh hknown hfragment hmem hroom] at h
    cases h
    exact ⟨hknown, hmem, hroom, rfl, rfl⟩
  · rw [call_of_full hknown hmem (by omega)] at h
    cases h

end Call

end Walk

/-! ## Agreement with the recursive definition -/

section Agreement

variable {lookup : Lookup} {maxDepth level : Nat}

def Walk.returned (walk : Walk) (expansion : Expansion) : Turn :=
  .goesOn { walk with expansion, due := !walk.frames.isEmpty }

/-- Calls with `depth` names to come lead to what the recursive definition answers. -/
def CallsAgree (lookup : Lookup) (maxDepth level depth : Nat) : Prop :=
  ∀ (token : Token) (walk : Walk), depth + walk.chain.length = maxDepth → walk.due = false →
    level ≤ walk.frames.length + 1 →
    Leads lookup maxDepth level (walk.call lookup maxDepth token)
      (.after (expandToken lookup maxDepth walk.position depth walk.chain token walk.expansion)
        walk.returned)

/--
Where the calls in a fragment agree, the rest of the fragment does, by induction on the
segments that are left.  At their end the name of the fragment leaves the chain.
-/
theorem leads_of_row {depth position : Nat} {chain : List String} {name : String}
    {top : List Segment} {first : Bool} {frames : List (List Segment)}
    (hcalls : CallsAgree lookup maxDepth level depth)
    (hdepth : depth + (name :: chain).length = maxDepth) (hlevel : level ≤ frames.length + 1)
    (row : List Segment) (before : Expansion) :
    Leads lookup maxDepth level
      (.goesOn ⟨before, name :: chain, position, top, first, row :: frames, false⟩)
      (.after (row.foldlM (expandSegment lookup maxDepth position depth (name :: chain)) before)
        fun expansion => .goesOn ⟨expansion.append [')'], chain, position, top, first, frames,
          !frames.isEmpty⟩) := by
  induction row generalizing before with
  | nil => exact .step hlevel (.refl _)
  | cons segment row ih =>
      rw [List.foldlM_cons]
      refine Leads.bind (.step hlevel ?_) ih
      cases segment with
      | literal text => exact .step hlevel (.refl _)
      | token inner =>
          refine (hcalls inner ⟨before, name :: chain, position, top, first, row :: frames, false⟩
            hdepth rfl (by rw [List.length_cons]; omega)).bind fun expansion => ?_
          exact .step hlevel (.refl _)

/-- The calls agree, by induction on the names that may still come. -/
theorem callsAgree (lookup : Lookup) (maxDepth level depth : Nat) :
    CallsAgree lookup maxDepth level depth := by
  induction depth using Nat.strong_induction_on with
  | _ depth ih =>
      intro token walk hdepth hdue hlevel
      rcases expandToken_cases lookup walk.position token walk.expansion hdepth with
        ⟨e, he, hrefusal⟩ | ⟨hknown, hfresh, fragment, rest, hfragment, rfl, hexpand⟩
      · rw [he, Walk.call_of_refusal hrefusal]
        exact .refl _
      · rw [hexpand, Walk.call_of_fresh hknown hfragment hfresh (by omega), hdue, Turn.after_map]
        apply leads_of_row (ih rest (Nat.lt_succ_self rest)) _ hlevel
        rw [List.length_cons]
        omega

/-- The rest of a text, outside all fragments. -/
theorem leads_of_expandSegments (lookup : Lookup) (maxDepth : Nat) (before : Expansion)
    (position : Nat) (top : List Segment) (first : Bool) :
    Leads lookup maxDepth 0 (.goesOn ⟨before, [], position, top, first, [], false⟩)
      (.after (expandSegments lookup maxDepth first top before)
        fun expansion => .ended (.ok expansion)) := by
  induction top generalizing before position first with
  | nil => exact .step (Nat.zero_le _) (.refl _)
  | cons segment top ih =>
      cases segment with
      | literal text =>
          rw [expandSegments_literal]
          refine Leads.bind ?_ fun expansion => ih expansion position false
          exact .step (Nat.zero_le _) (.step (Nat.zero_le _) (.refl _))
      | token token =>
          rw [expandSegments_token]
          refine Leads.bind ?_ fun expansion => ih expansion token.offset false
          exact .step (Nat.zero_le _) (callsAgree lookup maxDepth 0 maxDepth token
            ⟨before, [], token.offset, top, false, [], false⟩ rfl rfl (Nat.zero_le _))

/-- The walk through a text ends, and it ends as the recursive definition says. -/
theorem finishes_begin_iff {text : String} {result : Except CompileError Expansion} :
    Finishes lookup maxDepth (Walk.begin text) result ↔ result = ofText lookup maxDepth text := by
  have hfinishes : Finishes lookup maxDepth (Walk.begin text) (ofText lookup maxDepth text) := by
    rw [Walk.begin, ofText]
    split
    · exact .refl _
    · have hleads := leads_of_expandSegments lookup maxDepth .start 0 (segments text) true
      rwa [Turn.after_ended] at hleads
  constructor
  · intro h
    exact h.unique hfinishes
  · rintro rfl
    exact hfinishes

end Agreement

end Expansion

end LogPattern
