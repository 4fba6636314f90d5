import LogPattern.Pattern.Compiled
import LogPattern.Proofs.Pattern.Walk
import LogPattern.Proofs.Registry.Views

/-!
# Nesting of references

A call is refused when its name is on the chain already.  So the names on the chain are
distinct names of the registry, and calls are nested no deeper than there are names,
however high the limit is set.  A call that returns takes away the name that it has put
on the chain, and no other.
-/

namespace LogPattern

namespace Expansion

variable {lookup : Lookup} {maxDepth : Nat}

/-! ## What a step does to the chain -/

/-- A step leaves the chain and the fragments under way, or it calls, or it returns. -/
inductive Move (lookup : Lookup) (maxDepth : Nat) (walk walk' : Walk) : Prop
  | stays (hchain : walk'.chain = walk.chain)
      (hframes : walk'.frames.length = walk.frames.length)
  | calls (name : String) (hknown : IsKnown lookup name) (hfresh : name ∉ walk.chain)
      (hroom : walk.chain.length < maxDepth) (hchain : walk'.chain = name :: walk.chain)
      (hframes : walk'.frames.length = walk.frames.length + 1)
  | returns (hchain : walk'.chain = walk.chain.tail)
      (hframes : walk'.frames.length + 1 = walk.frames.length)

theorem Move.of_call {token : Token} {caller walk walk' : Walk}
    (h : caller.call lookup maxDepth token = .goesOn walk') (hchain : caller.chain = walk.chain)
    (hframes : caller.frames.length = walk.frames.length) : Move lookup maxDepth walk walk' := by
  obtain ⟨hknown, hfresh, hroom, hchain', hframes'⟩ := Walk.call_inv h
  rw [hchain] at hfresh hroom hchain'
  rw [hframes] at hframes'
  exact .calls token.name hknown hfresh hroom hchain' hframes'

theorem Move.of_next {walk walk' : Walk} (h : walk.next lookup maxDepth = .goesOn walk') :
    Move lookup maxDepth walk walk' := by
  obtain ⟨expansion, chain, position, top, first, frames, due⟩ := walk
  cases due with
  | true =>
      obtain ⟨checked, -, rfl⟩ := Turn.after_eq_goesOn h
      exact .stays rfl rfl
  | false =>
      match frames, top with
      | [], [] => cases h
      | [], .literal text :: top =>
          cases h
          exact .stays rfl rfl
      | [], .token token :: top => exact .of_call h rfl rfl
      | [] :: frames, _ =>
          cases h
          exact .returns rfl rfl
      | (.literal text :: row) :: frames, _ =>
          cases h
          exact .stays rfl rfl
      | (.token token :: row) :: frames, _ => exact .of_call h rfl rfl

/-! ## The chain of a walk -/

/-- The chain has one name for each fragment under way, and no name twice. -/
structure Walk.IsSound (lookup : Lookup) (maxDepth : Nat) (walk : Walk) : Prop where
  opened : IsOpenTrail lookup walk.chain
  level : walk.chain.length = walk.frames.length
  shallow : walk.chain.length ≤ maxDepth

theorem Walk.IsSound.move {walk walk' : Walk} (h : walk.IsSound lookup maxDepth)
    (hmove : Move lookup maxDepth walk walk') : walk'.IsSound lookup maxDepth := by
  obtain ⟨hopened, hlevel, hshallow⟩ := h
  cases hmove with
  | stays hchain hframes =>
      refine ⟨?_, ?_, ?_⟩
      · rwa [hchain]
      · rw [hchain, hframes, hlevel]
      · rwa [hchain]
  | calls name hknown hfresh hroom hchain hframes =>
      refine ⟨?_, ?_, ?_⟩
      · rw [hchain]
        exact hopened.cons hknown hfresh
      · rw [hchain, hframes, List.length_cons, hlevel]
      · rw [hchain, List.length_cons]
        omega
  | returns hchain hframes =>
      refine ⟨?_, ?_, ?_⟩
      · rw [hchain]
        exact hopened.tail
      · rw [hchain, List.length_tail]
        omega
      · rw [hchain, List.length_tail]
        omega

theorem isSound_of_isReached {text : String} {walk : Walk}
    (h : IsReached lookup maxDepth text walk) : walk.IsSound lookup maxDepth := by
  apply Leads.preserves h
  · intro walk walk' _ hnext hsound
    exact hsound.move (.of_next hnext)
  · intro walk hbegin
    rw [Walk.begin] at hbegin
    split at hbegin
    · cases hbegin
    · cases hbegin
      exact ⟨.nil, rfl, Nat.zero_le _⟩

theorem length_le_size_of_isOpenTrail {registry : Registry} {chain : List String}
    (h : IsOpenTrail registry.lookup? chain) : chain.length ≤ registry.size := by
  rw [← Registry.length_names]
  apply List.Subperm.length_le
  apply List.subperm_of_subset h.nodup
  intro name hname
  rw [Registry.mem_names, Registry.contains_eq]
  exact (h.known name hname).2

/-! ## Calls and their ends -/

/-- The walk calls a token, and later stands where the call has just returned. -/
structure Returns (lookup : Lookup) (maxDepth : Nat) (walk back : Walk) : Prop where
  called : walk.called?.isSome = true
  /-- Until then the fragment of the token is under way. -/
  leads : Leads lookup maxDepth (walk.frames.length + 1) (walk.next lookup maxDepth) (.goesOn back)
  level : back.frames.length = walk.frames.length

structure Fails (lookup : Lookup) (maxDepth : Nat) (walk : Walk) (e : CompileError) : Prop where
  called : walk.called?.isSome = true
  leads : Leads lookup maxDepth (walk.frames.length + 1) (walk.next lookup maxDepth)
    (.ended (.error e))

theorem Walk.next_of_called (lookup : Lookup) (maxDepth : Nat) {walk : Walk}
    (h : walk.called?.isSome = true) :
    ∃ (token : Token) (caller : Walk),
      walk.next lookup maxDepth = caller.call lookup maxDepth token ∧ caller.due = false ∧
      caller.chain = walk.chain ∧ caller.frames.length = walk.frames.length := by
  obtain ⟨expansion, chain, position, top, first, frames, due⟩ := walk
  cases due with
  | true => cases h
  | false =>
      match frames, top with
      | [], [] => cases h
      | [], .literal text :: top => cases h
      | [], .token token :: top => exact ⟨token, _, rfl, rfl, rfl, rfl⟩
      | [] :: frames, _ => cases h
      | (.literal text :: row) :: frames, _ => cases h
      | (.token token :: row) :: frames, _ => exact ⟨token, _, rfl, rfl, rfl, rfl⟩

/-- Every call comes to an end. -/
theorem returns_or_fails {walk : Walk} (hsound : walk.IsSound lookup maxDepth)
    (hcalled : walk.called?.isSome = true) :
    (∃ back, Returns lookup maxDepth walk back) ∨ ∃ e, Fails lookup maxDepth walk e := by
  obtain ⟨token, caller, hnext, hdue, hchain, hframes⟩ :=
    Walk.next_of_called lookup maxDepth hcalled
  have hdepth : maxDepth - caller.chain.length + caller.chain.length = maxDepth := by
    have hshallow := hsound.shallow
    rw [hchain]
    omega
  have hleads := callsAgree lookup maxDepth (walk.frames.length + 1) _ token caller hdepth hdue
    (by rw [hframes])
  rw [← hnext] at hleads
  cases hanswer : expandToken lookup maxDepth caller.position (maxDepth - caller.chain.length)
      caller.chain token caller.expansion with
  | error e =>
      rw [hanswer] at hleads
      exact .inr ⟨e, hcalled, hleads⟩
  | ok expansion =>
      rw [hanswer] at hleads
      exact .inl ⟨_, hcalled, hleads, hframes⟩

/-- The chain of a caller stays below the names of the fragments that have been called since. -/
def Walk.StandsOn (chain : List String) (level : Nat) (walk : Walk) : Prop :=
  ∃ inner, walk.chain = inner ++ chain ∧ walk.frames.length = inner.length + level

namespace Walk.StandsOn

variable {chain : List String} {level : Nat} {walk walk' : Walk}

theorem move (h : walk.StandsOn chain level) (hlevel : level + 1 ≤ walk.frames.length)
    (hmove : Move lookup maxDepth walk walk') : walk'.StandsOn chain level := by
  obtain ⟨inner, hinner, hcount⟩ := h
  cases hmove with
  | stays hchain hframes =>
      refine ⟨inner, ?_, ?_⟩
      · rw [hchain, hinner]
      · rw [hframes, hcount]
  | calls name _ _ _ hchain hframes =>
      refine ⟨name :: inner, ?_, ?_⟩
      · rw [hchain, hinner, List.cons_append]
      · rw [hframes, hcount, List.length_cons]
        omega
  | returns hchain hframes =>
      -- a fragment above the level is under way, so the name that goes is not the caller's
      cases inner with
      | nil =>
          rw [List.length_nil] at hcount
          omega
      | cons name inner =>
          refine ⟨inner, ?_, ?_⟩
          · rw [hchain, hinner, List.cons_append, List.tail_cons]
          · rw [List.length_cons] at hcount
            omega

theorem of_called (hcalled : walk.called?.isSome = true)
    (hnext : walk.next lookup maxDepth = .goesOn walk') :
    walk'.StandsOn walk.chain walk.frames.length := by
  obtain ⟨token, caller, hcall, -, hchain, hframes⟩ := next_of_called lookup maxDepth hcalled
  rw [hcall] at hnext
  obtain ⟨-, -, -, hchain', hframes'⟩ := call_inv hnext
  refine ⟨[token.name], ?_, ?_⟩
  · rw [hchain', hchain, List.singleton_append]
  · rw [hframes', hframes, List.length_singleton, Nat.add_comm]

theorem chain_eq (h : walk.StandsOn chain level) (hlevel : walk.frames.length = level) :
    walk.chain = chain := by
  obtain ⟨inner, hinner, hcount⟩ := h
  obtain rfl : inner = [] := List.eq_nil_of_length_eq_zero (by omega)
  exact hinner

end Walk.StandsOn

theorem chain_of_returns {walk back : Walk} (h : Returns lookup maxDepth walk back) :
    back.chain = walk.chain := by
  have hback : back.StandsOn walk.chain walk.frames.length := by
    apply Leads.preserves h.leads
    · intro walk₁ walk₂ hlevel hnext hstands
      exact hstands.move hlevel (.of_next hnext)
    · intro entered hnext
      exact .of_called h.called hnext
  exact hback.chain_eq h.level

/-- Where as many fragments are under way as there can be, the call of a further one is refused. -/
theorem refused_of_full {registry : Registry} {text : String} {walk : Walk}
    (hreached : IsReached registry.lookup? maxDepth text walk)
    (hcalled : walk.called?.isSome = true)
    (hfull : walk.frames.length = min maxDepth registry.size) :
    ∃ e, walk.next registry.lookup? maxDepth = .ended (.error e) := by
  obtain ⟨token, caller, hcall, -, hchain, hframes⟩ :=
    Walk.next_of_called registry.lookup? maxDepth hcalled
  cases hnext : walk.next registry.lookup? maxDepth with
  | ended result =>
      obtain ⟨e, rfl⟩ := Walk.call_ended (hcall.symm.trans hnext)
      exact ⟨e, rfl⟩
  | goesOn walk' =>
      -- one fragment more would be under way
      have hreached' := Leads.next hreached (Nat.zero_le _)
      rw [hnext] at hreached'
      have hsound := isSound_of_isReached hreached'
      obtain ⟨-, -, -, -, hframes'⟩ := Walk.call_inv (hcall.symm.trans hnext)
      have hsize := length_le_size_of_isOpenTrail hsound.opened
      have hlevel := hsound.level
      have hshallow := hsound.shallow
      omega

structure Walk.IsNested (registry : Registry) (maxDepth : Nat) (walk : Walk) : Prop where
  nodup : walk.chain.Nodup
  registered : ∀ name ∈ walk.chain, registry.contains name = true
  /-- The chain has a name for each fragment under way. -/
  level : walk.chain.length = walk.frames.length
  bounded : walk.frames.length ≤ min maxDepth registry.size
  /-- No call goes beyond the bound. -/
  refused : walk.called?.isSome = true → walk.frames.length = min maxDepth registry.size →
    ∃ e, walk.next registry.lookup? maxDepth = .ended (.error e)
  /-- A call returns, or the expansion ends in it. -/
  ends : walk.called?.isSome = true →
    (∃ back, Returns registry.lookup? maxDepth walk back) ∨
      ∃ e, Fails registry.lookup? maxDepth walk e
  restored : ∀ back, Returns registry.lookup? maxDepth walk back → back.chain = walk.chain

theorem isNested_of_isReached {registry : Registry} {text : String} {walk : Walk}
    (h : IsReached registry.lookup? maxDepth text walk) : walk.IsNested registry maxDepth := by
  have hsound := isSound_of_isReached h
  refine ⟨hsound.opened.nodup, ?_, hsound.level, ?_, refused_of_full h, returns_or_fails hsound,
    fun back => chain_of_returns⟩
  · intro name hname
    rw [Registry.contains_eq]
    exact (hsound.opened.known name hname).2
  · rw [← hsound.level]
    exact Nat.le_min.2 ⟨hsound.shallow, length_le_size_of_isOpenTrail hsound.opened⟩

end Expansion

namespace CompiledPattern

open Expansion

/--
Whatever the limit, the walk through a text ends, and compiling answers from where it
ends.  On the way calls are nested no deeper than the limit allows and the registry has
names, and each that returns leaves the chain as it was.
-/
theorem compile_terminates (registry : Registry) (maxDepth : Nat) (text : String) :
    (∃ result, (∀ other, Finishes registry.lookup? maxDepth (Walk.begin text) other ↔
        other = result) ∧
      compile registry.lookup? maxDepth text = result.bind (ofExpansion text)) ∧
    ∀ walk, IsReached registry.lookup? maxDepth text walk → walk.IsNested registry maxDepth := by
  constructor
  · exact ⟨_, fun other => finishes_begin_iff, compile_eq_bind _ _ _⟩
  · intro walk hreached
    exact isNested_of_isReached hreached

/--
With the highest limit there is, a call in a fragment returns, and a circle is found as
soon as both of its names are on the chain.
-/
theorem compile_terminates_highest_limit :
    let limit := 18446744073709551615
    let pair := (Registry.empty.registerAll [⟨"PAIR", "%{WORD}-%{WORD}"⟩, ⟨"WORD", "x"⟩]).registry
    let circle := (Registry.empty.registerAll
      [⟨"LEFT", "%{RIGHT}"⟩, ⟨"RIGHT", "%{LEFT}"⟩]).registry
    (∃ walk back, IsReached pair.lookup? limit "%{PAIR}" walk ∧
      Returns pair.lookup? limit walk back ∧ back.expansion.text = "(?:(?:x)" ∧
      walk.chain = ["PAIR"] ∧ back.chain = ["PAIR"]) ∧
    ∃ walk, IsReached circle.lookup? limit "%{LEFT}" walk ∧ walk.chain = ["RIGHT", "LEFT"] ∧
      walk.called?.isSome = true ∧ walk.frames.length = min limit circle.size ∧
      ∃ e, walk.next circle.lookup? limit = .ended (.error e) := by
  intro limit pair circle
  constructor
  · have hcomes : ((Walk.begin "%{PAIR}").advance pair.lookup? limit 0 1).meets (fun walk =>
        walk.chain = ["PAIR"] && walk.called?.isSome &&
          ((walk.next pair.lookup? limit).advance pair.lookup? limit
            (walk.frames.length + 1) 4).meets fun back =>
              back.frames.length = walk.frames.length &&
                back.expansion.text = "(?:(?:x)") = true := by
      decide +kernel
    obtain ⟨walk, hreached, hwalk⟩ := exists_of_advance hcomes
    simp only [Bool.and_eq_true, decide_eq_true_eq] at hwalk
    obtain ⟨⟨hchain, hcalled⟩, hback⟩ := hwalk
    obtain ⟨back, hleads, hback⟩ := exists_of_advance hback
    simp only [Bool.and_eq_true, decide_eq_true_eq] at hback
    have hreturns : Returns pair.lookup? limit walk back := ⟨hcalled, hleads, hback.1⟩
    refine ⟨walk, back, hreached, hreturns, hback.2, hchain, ?_⟩
    rw [((compile_terminates pair limit "%{PAIR}").2 walk hreached).restored back hreturns, hchain]
  · have hcomes : ((Walk.begin "%{LEFT}").advance circle.lookup? limit 0 2).meets (fun walk =>
        walk.chain = ["RIGHT", "LEFT"] && walk.called?.isSome &&
          walk.frames.length = min limit circle.size) = true := by
      decide +kernel
    obtain ⟨walk, hreached, hwalk⟩ := exists_of_advance hcomes
    simp only [Bool.and_eq_true, decide_eq_true_eq] at hwalk
    obtain ⟨⟨hchain, hcalled⟩, hfull⟩ := hwalk
    exact ⟨walk, hreached, hchain, hcalled, hfull,
      ((compile_terminates circle limit "%{LEFT}").2 walk hreached).refused hcalled hfull⟩

end CompiledPattern

end LogPattern
