import LogPattern.Proofs.Pattern.References
import LogPattern.Proofs.Pattern.Tokenize
import Mathlib.Data.List.Induction

/-!
# The first problem of an expansion

The tokens of a text, those in the fragments that they name, those in the fragments of
these and so on make a tree.  Its places are lists of numbers: which token of the text,
which token of its fragment, and so on.  In the lexicographic order of the places a token
comes before those inside it, and these come before the tokens behind it.  The expansion
visits the places in this order, and reports the first one at which it cannot go on.
-/

namespace LogPattern

namespace Expansion

variable {lookup : Lookup} {maxDepth position depth : Nat} {names outer : List String}
  {place : List Nat} {way : List String} {name fragment : String} {e : CompileError}

/-! ## The tree of references -/

/--
In a text that mentions `names`, a name is referred to at a place; `way` are the names of
the tokens around it, the outermost first.
-/
inductive Visits (lookup : Lookup) :
    (names : List String) → (place : List Nat) → (way : List String) → (name : String) → Prop
  | here {names : List String} {i : Nat} {name : String} (h : names[i]? = some name) :
      Visits lookup names [i] [] name
  | inside {names : List String} {i : Nat} {outer fragment : String} {place : List Nat}
      {way : List String} {name : String} (h : names[i]? = some outer)
      (hfragment : lookup outer = some fragment)
      (hrest : Visits lookup (mentions fragment) place way name) :
      Visits lookup names (i :: place) (outer :: way) name

/-- Behind a way of names the expansion goes on with a name. -/
structure Proceeds (lookup : Lookup) (maxDepth : Nat) (way : List String) (name : String) :
    Prop where
  known : IsKnown lookup name
  fresh : name ∉ way
  shallow : way.length < maxDepth

/-- Behind the `outer` names the expansion goes on at all places. -/
def Clear (lookup : Lookup) (maxDepth : Nat) (outer names : List String) : Prop :=
  ∀ place way name, Visits lookup names place way name →
    Proceeds lookup maxDepth (outer ++ way) name

/--
Behind the `outer` names the expansion does not go on at a place, though it does at all
places before.
-/
structure FirstProblem (lookup : Lookup) (maxDepth : Nat) (outer names : List String)
    (place : List Nat) (way : List String) (name : String) : Prop where
  visits : Visits lookup names place way name
  blocked : ¬ Proceeds lookup maxDepth (outer ++ way) name
  first : ∀ place' < place, ∀ way' name', Visits lookup names place' way' name' →
    Proceeds lookup maxDepth (outer ++ way') name'

namespace Visits

theorem exists_start (h : Visits lookup names place way name) :
    ∃ i inner start, place = i :: inner ∧ names[i]? = some start ∧
      (way ++ [name]).head? = some start := by
  cases h with
  | here h => exact ⟨_, [], name, rfl, h, rfl⟩
  | inside h _ _ => exact ⟨_, _, _, rfl, h, rfl⟩

theorem singleton_cases {last : String} (h : Visits lookup [name] place way last) :
    (way = [] ∧ last = name) ∨ ∃ inner fragment rest, place = 0 :: inner ∧ way = name :: rest ∧
      lookup name = some fragment ∧ Visits lookup (mentions fragment) inner rest last := by
  cases h with
  | @here _ i _ hlast =>
      obtain ⟨-, rfl⟩ : i = 0 ∧ name = last := by simpa [List.getElem?_singleton] using hlast
      exact .inl ⟨rfl, rfl⟩
  | @inside _ i around fragment inner rest _ haround hfragment hrest =>
      obtain ⟨rfl, rfl⟩ : i = 0 ∧ name = around := by
        simpa [List.getElem?_singleton] using haround
      exact .inr ⟨inner, fragment, rest, rfl, rfl, hfragment, hrest⟩

theorem isChain (h : Visits lookup names place way name) :
    (way ++ [name]).IsChain (RefersTo lookup) := by
  induction h with
  | here => exact List.isChain_singleton _
  | @inside names i outer fragment place way name _ hfragment hrest ih =>
      rw [List.cons_append, List.isChain_cons]
      refine ⟨fun next hnext => ⟨fragment, hfragment, ?_⟩, ih⟩
      obtain ⟨j, inner, start, -, hstart, hhead⟩ := hrest.exists_start
      obtain rfl := Option.some.inj (hhead.symm.trans hnext)
      exact List.mem_of_getElem? hstart

/-- Every token around a place is visited before it. -/
theorem exists_before {front back : List String} {other : String}
    (h : Visits lookup names place way name) (hway : way = front ++ other :: back) :
    ∃ place' < place, Visits lookup names place' front other := by
  induction h generalizing front with
  | here => simp at hway
  | @inside names i around fragment place way name h hfragment hrest ih =>
      cases front with
      | nil =>
          obtain ⟨rfl, -⟩ := List.cons.inj hway
          refine ⟨[i], List.cons_lt_cons_iff.2 (.inr ⟨rfl, ?_⟩), .here h⟩
          obtain ⟨j, inner, -, rfl, -⟩ := hrest.exists_start
          exact List.nil_lt_cons j inner
      | cons first front =>
          obtain ⟨rfl, hrestWay⟩ := List.cons.inj hway
          obtain ⟨place', hbefore, hvisits⟩ := ih hrestWay
          exact ⟨i :: place', List.cons_lt_cons_iff.2 (.inr ⟨rfl, hbefore⟩),
            .inside h hfragment hvisits⟩

/-- At a place only the first of its numbers is about the names. -/
theorem move {names' : List String} {i j : Nat} (h : Visits lookup names (i :: place) way name)
    (hsame : names'[j]? = names[i]?) : Visits lookup names' (j :: place) way name := by
  cases h with
  | here h => exact .here (hsame.trans h)
  | inside h hfragment hrest => exact .inside (hsame.trans h) hfragment hrest

end Visits

/-! ## Where the expansion goes on -/

theorem clear_iff :
    Clear lookup maxDepth outer names ↔ ∀ name ∈ names, Clear lookup maxDepth outer [name] := by
  constructor
  · intro h start hstart place way name hvisits
    obtain ⟨i, hi⟩ := List.mem_iff_getElem?.1 hstart
    obtain ⟨j, inner, start', rfl, hstart', -⟩ := hvisits.exists_start
    obtain ⟨rfl, rfl⟩ : j = 0 ∧ start = start' := by
      simpa [List.getElem?_singleton] using hstart'
    exact h _ way name (hvisits.move hi)
  · intro h place way name hvisits
    obtain ⟨i, inner, start, rfl, hstart, -⟩ := hvisits.exists_start
    exact h start (List.mem_of_getElem? hstart) (0 :: inner) way name (hvisits.move hstart.symm)

theorem clear_singleton (hproceeds : Proceeds lookup maxDepth outer name)
    (hfragment : lookup name = some fragment)
    (h : Clear lookup maxDepth (outer ++ [name]) (mentions fragment)) :
    Clear lookup maxDepth outer [name] := by
  intro place way last hvisits
  obtain ⟨rfl, rfl⟩ | ⟨inner, fragment', rest, -, rfl, hfragment', hrest⟩ :=
    hvisits.singleton_cases
  · rwa [List.append_nil]
  · obtain rfl := Option.some.inj (hfragment.symm.trans hfragment')
    rw [List.append_cons]
    exact h inner rest last hrest

namespace FirstProblem

theorem here (h : ¬ Proceeds lookup maxDepth outer name) :
    FirstProblem lookup maxDepth outer [name] [0] [] name where
  visits := .here rfl
  blocked := by rwa [List.append_nil]
  first := by
    intro place' hbefore way' name' hvisits
    obtain ⟨i, inner, -, rfl, -⟩ := hvisits.exists_start
    rcases List.cons_lt_cons_iff.1 hbefore with hlt | ⟨-, hlt⟩
    · exact absurd hlt (Nat.not_lt_zero _)
    · exact absurd hlt (List.not_lt_nil _)

theorem inside (hproceeds : Proceeds lookup maxDepth outer name)
    (hfragment : lookup name = some fragment) {last : String}
    (h : FirstProblem lookup maxDepth (outer ++ [name]) (mentions fragment) place way last) :
    FirstProblem lookup maxDepth outer [name] (0 :: place) (name :: way) last where
  visits := .inside rfl hfragment h.visits
  blocked := by
    rw [List.append_cons]
    exact h.blocked
  first := by
    intro place' hbefore way' name' hvisits
    obtain ⟨rfl, rfl⟩ | ⟨inner, fragment', rest, rfl, rfl, hfragment', hrest⟩ :=
      hvisits.singleton_cases
    · rwa [List.append_nil]
    · obtain rfl := Option.some.inj (hfragment.symm.trans hfragment')
      have hinner : inner < place := by simpa using List.cons_lt_cons_iff.1 hbefore
      rw [List.append_cons]
      exact h.first inner hinner rest name' hrest

/-- What stands in front of a token comes before it, and what stands behind it does not. -/
theorem amid {front : List String} {start : String} (back : List String)
    (hfront : Clear lookup maxDepth outer front)
    (h : FirstProblem lookup maxDepth outer [start] (0 :: place) way name) :
    FirstProblem lookup maxDepth outer (front ++ start :: back) (front.length :: place) way
      name where
  visits := h.visits.move (by simp)
  blocked := h.blocked
  first := by
    intro place' hbefore way' name' hvisits
    obtain ⟨i, inner, -, rfl, -⟩ := hvisits.exists_start
    rcases List.cons_lt_cons_iff.1 hbefore with hlt | ⟨rfl, hlt⟩
    · exact hfront _ way' name' (hvisits.move (List.getElem?_append_left hlt).symm)
    · exact h.first (0 :: inner) (List.cons_lt_cons_iff.2 (.inr ⟨rfl, hlt⟩)) way' name'
        (hvisits.move (by simp))

/-- On the way to the first problem the expansion goes on at every token. -/
theorem proceeds (h : FirstProblem lookup maxDepth outer names place way name)
    {front back : List String} {around : String} (hway : way = front ++ around :: back) :
    Proceeds lookup maxDepth (outer ++ front) around := by
  obtain ⟨place', hbefore, hvisits⟩ := h.visits.exists_before hway
  exact h.first place' hbefore front around hvisits

theorem isOpenTrail (h : FirstProblem lookup maxDepth [] names place way name) :
    IsOpenTrail lookup way ∧ way.length ≤ maxDepth := by
  suffices hopen : ∀ front back, way = front ++ back →
      IsOpenTrail lookup front ∧ front.length ≤ maxDepth from
    hopen way [] (List.append_nil _).symm
  intro front
  induction front using List.reverseRecOn with
  | nil => exact fun _ _ => ⟨.nil, Nat.zero_le _⟩
  | append_singleton front last ih =>
      intro back hway
      rw [List.append_assoc] at hway
      obtain ⟨⟨hnodup, hknown⟩, -⟩ := ih _ hway
      have hlast : Proceeds lookup maxDepth front last := h.proceeds hway
      refine ⟨⟨?_, ?_⟩, ?_⟩
      · exact List.concat_eq_append ▸ hnodup.concat hlast.fresh
      · exact List.forall_mem_append.2 ⟨hknown, by simpa using hlast.known⟩
      · rw [List.length_append]
        exact hlast.shallow

theorem head?_eq_of_zero (h : FirstProblem lookup 0 [] names place way name) :
    names.head? = some name := by
  have hway : way = [] := List.eq_nil_of_length_eq_zero (Nat.le_zero.1 h.isOpenTrail.2)
  subst hway
  cases hnames : names with
  | nil =>
      obtain ⟨i, inner, start, rfl, hstart, -⟩ := h.visits.exists_start
      simp [hnames] at hstart
  | cons start rest =>
      have hvisits : Visits lookup names [0] [] start := .here (by rw [hnames]; rfl)
      cases h.visits with
      | @here _ i _ hname =>
          cases i with
          | zero => simpa [hnames] using hname
          | succ i =>
              have hbefore : [0] < [i + 1] := List.cons_lt_cons_iff.2 (.inl (Nat.succ_pos i))
              have hproceeds := h.first [0] hbefore [] start hvisits
              exact absurd hproceeds.shallow (Nat.not_lt_zero _)

end FirstProblem

/-! ## Expansions -/

section Token

variable {chain : List String} {token : Token} {before after : Expansion}

/-- Behind the names of a chain the expansion does not go on with a name that is refused. -/
theorem not_proceeds_of_refusal {name : String} {e : CompileError}
    (h : Refusal lookup maxDepth position name chain e) :
    ¬ Proceeds lookup maxDepth chain.reverse name := by
  intro hproceeds
  cases h with
  | unknown hname => exact hname hproceeds.known
  | cyclic hname hagain => exact hproceeds.fresh (List.mem_reverse.2 hagain)
  | tooDeep hname hfresh hfull =>
      have hlt := hproceeds.shallow
      rw [List.length_reverse] at hlt
      omega

theorem proceeds_of_fresh {name : String} {rest : Nat} (hknown : IsKnown lookup name)
    (hfresh : name ∉ chain) (hdepth : rest + 1 + chain.length = maxDepth) :
    Proceeds lookup maxDepth chain.reverse name := by
  refine ⟨hknown, by simpa using hfresh, ?_⟩
  rw [List.length_reverse]
  omega

theorem clear_of_parts {parts : List Segment} (h : ∀ inner, Segment.token inner ∈ parts →
    Clear lookup maxDepth outer [inner.name]) :
    Clear lookup maxDepth outer (parts.filterMap Segment.reference?) := by
  refine clear_iff.2 fun next hnext => ?_
  obtain ⟨segment, hsegment, hname⟩ := List.mem_filterMap.1 hnext
  cases segment with
  | literal text => cases hname
  | token inner =>
      cases hname
      exact h inner hsegment

/-- The first problem of a token is that of the text, if there is none in front of the token. -/
theorem FirstProblem.of_split {text : String} {front back : List Segment}
    (hparts : segments text = front ++ .token token :: back)
    (hfront : ∀ inner, Segment.token inner ∈ front → Clear lookup maxDepth outer [inner.name])
    (h : FirstProblem lookup maxDepth outer [token.name] (0 :: place) way name) :
    FirstProblem lookup maxDepth outer (mentions text)
      ((front.filterMap Segment.reference?).length :: place) way name := by
  have hmentions : mentions text = front.filterMap Segment.reference? ++
      token.name :: back.filterMap Segment.reference? := by
    rw [mentions, hparts, List.filterMap_append]
    rfl
  rw [hmentions]
  exact h.amid _ (clear_of_parts hfront)

/-- Where a token has been expanded, the expansion goes on everywhere inside it. -/
theorem clear_of_expandToken (hdepth : depth + chain.length = maxDepth)
    (h : expandToken lookup maxDepth position depth chain token before = .ok after) :
    Clear lookup maxDepth chain.reverse [token.name] := by
  induction depth generalizing chain token before after with
  | zero =>
      obtain ⟨_, rest, _, -, hzero, -⟩ := expandToken_inv h
      omega
  | succ depth ih =>
      obtain ⟨e, he, -⟩ | ⟨hknown, hfresh, fragment, rest, hfragment, hrest, hexpand⟩ :=
        expandToken_cases lookup position token before hdepth
      · rw [he] at h
        cases h
      · obtain rfl : depth = rest := by omega
        have hproceeds := proceeds_of_fresh hknown hfresh hdepth
        rw [hexpand] at h
        obtain ⟨filled, hfold, -⟩ := except_map_eq_ok h
        refine clear_singleton hproceeds hfragment (clear_of_parts fun inner hinner => ?_)
        obtain ⟨s, s', hs⟩ := exists_ok_of_foldlM hfold hinner
        obtain ⟨expanded, hexpanded, -⟩ := except_bind_eq_ok hs
        rw [← List.reverse_cons]
        exact ih (by rw [List.length_cons]; omega) hexpanded

/-- An expansion of a token that fails, unless by growing too long, reports the first problem. -/
theorem firstProblem_of_expandToken (hdepth : depth + chain.length = maxDepth)
    (h : expandToken lookup maxDepth position depth chain token before = .error e) :
    (∃ problem, e = .invalidRegex problem) ∨
      ∃ place way name, FirstProblem lookup maxDepth chain.reverse [token.name] (0 :: place) way
        name ∧ Refusal lookup maxDepth position name (way.reverse ++ chain) e := by
  induction depth generalizing chain token before with
  | zero =>
      obtain ⟨e', he', hrefusal⟩ | ⟨-, -, _, rest, -, hzero, -⟩ :=
        expandToken_cases lookup position token before hdepth
      · obtain rfl := Except.error.inj (h.symm.trans he')
        exact .inr ⟨[], [], token.name, .here (not_proceeds_of_refusal hrefusal), hrefusal⟩
      · omega
  | succ depth ih =>
      obtain ⟨e', he', hrefusal⟩ | ⟨hknown, hfresh, fragment, rest, hfragment, hrest, hexpand⟩ :=
        expandToken_cases lookup position token before hdepth
      · obtain rfl := Except.error.inj (h.symm.trans he')
        exact .inr ⟨[], [], token.name, .here (not_proceeds_of_refusal hrefusal), hrefusal⟩
      obtain rfl : depth = rest := by omega
      have hproceeds := proceeds_of_fresh hknown hfresh hdepth
      have hlength : depth + (token.name :: chain).length = maxDepth := by
        rw [List.length_cons]
        omega
      rw [hexpand] at h
      obtain ⟨front, part, back, middle, hparts, hfront, hpart⟩ :=
        exists_split_of_foldlM (except_map_eq_error h)
      cases part with
      | literal text => exact .inl (error_of_checkLength hpart)
      | token inner =>
          rcases except_bind_eq_error hpart with hinner | ⟨s', -, hcheck⟩
          swap
          · exact .inl (error_of_checkLength hcheck)
          refine (ih hlength hinner).imp_right ?_
          rintro ⟨place, way, name, hproblem, hrefusal⟩
          have hclear : ∀ other, Segment.token other ∈ front →
              Clear lookup maxDepth (token.name :: chain).reverse [other.name] := by
            intro other hother
            obtain ⟨s, s', hs⟩ := exists_ok_of_foldlM hfront hother
            obtain ⟨expanded, hexpanded, -⟩ := except_bind_eq_ok hs
            exact clear_of_expandToken hlength hexpanded
          have hwhole := hproblem.of_split hparts hclear
          rw [List.reverse_cons] at hwhole
          refine ⟨_, token.name :: way, name, .inside hproceeds hfragment hwhole, ?_⟩
          rwa [List.reverse_cons, List.append_assoc]

end Token

end Expansion

def Segment.token? : Segment → Option Token
  | .literal _ => none
  | .token inner => some inner

def tokens (text : String) : List Token := (segments text).filterMap Segment.token?

theorem length_filterMap_reference? (parts : List Segment) :
    (parts.filterMap Segment.reference?).length = (parts.filterMap Segment.token?).length := by
  have hreference : Segment.reference? = fun segment => segment.token?.map (·.name) := by
    funext segment
    cases segment <;> rfl
  rw [hreference, ← List.map_filterMap, List.length_map]

namespace CompiledPattern

open Expansion

variable {lookup : Lookup} {maxDepth : Nat} {text : String} {token : Token} {way : List String}
  {name : String} {e : CompileError}

/--
The way from a token of the text to the name at the first place where the expansion does
not go on.
-/
structure FirstBlocked (lookup : Lookup) (maxDepth : Nat) (text : String) (token : Token)
    (way : List String) (name : String) : Prop where
  stands : token.StandsIn text
  starts : (way ++ [name]).head? = some token.name
  leads : (way ++ [name]).IsChain (RefersTo lookup)
  nodup : way.Nodup
  known : ∀ around ∈ way, IsKnown lookup around
  first : ∃ i place, (tokens text)[i]? = some token ∧
    FirstProblem lookup maxDepth [] (mentions text) (i :: place) way name

theorem firstBlocked_of_compile (h : compile lookup maxDepth text = .error e)
    (hregex : ∀ problem, e ≠ .invalidRegex problem) (hempty : e ≠ .emptyPattern) :
    ∃ token way name, FirstBlocked lookup maxDepth text token way name ∧
      Refusal lookup maxDepth token.offset name way.reverse e := by
  have hnot : ¬ ∃ problem, e = .invalidRegex problem := fun ⟨problem, hp⟩ => hregex problem hp
  have hexpand := (ofText_eq_of_compile_error h).resolve_left hnot
  have hdepth : maxDepth + ([] : List String).length = maxDepth := rfl
  rw [ofText] at hexpand
  split at hexpand
  · exact absurd (Except.error.inj hexpand).symm hempty
  obtain ⟨front, token, back, s, hparts, hfront, htoken⟩ :=
    (exists_split_of_expandSegments hexpand).resolve_left hnot
  obtain ⟨place, way, name, hproblem, hrefusal⟩ :=
    (firstProblem_of_expandToken hdepth htoken).resolve_left hnot
  have hclear : ∀ inner, Segment.token inner ∈ front →
      Clear lookup maxDepth [] [inner.name] := by
    intro inner hinner
    obtain ⟨s, s', hs⟩ := hfront inner hinner
    exact clear_of_expandToken hdepth hs
  have hwhole := hproblem.of_split hparts hclear
  have htokens : (tokens text)[(front.filterMap Segment.reference?).length]? = some token := by
    rw [tokens, hparts, List.filterMap_append, length_filterMap_reference?,
      List.getElem?_append_right (Nat.le_refl _), Nat.sub_self]
    rfl
  have hopen := hwhole.isOpenTrail.1
  obtain ⟨i, inner, start, hplace, hstart, hhead⟩ := hproblem.visits.exists_start
  obtain ⟨rfl, -⟩ := List.cons.inj hplace
  obtain rfl := Option.some.inj hstart
  refine ⟨token, way, name, ⟨standsIn_of_mem_segments ?_, hhead, hproblem.visits.isChain,
    hopen.nodup, hopen.known, _, place, htokens, hwhole⟩, by simpa using hrefusal⟩
  rw [hparts]
  simp

/--
An error about a reference tells the truth.  An unknown name is not registered, and a way of
registered names leads to it from the token at the offset.  A cyclic chain goes from a token
of the text from reference to reference, over registered names none of which comes twice, and
comes back to one of them.  Where the limit is passed, the way has as many names as the limit
and would go on with another registered one.  In all three cases it is the first problem, in
the order in which the text is expanded.
-/
theorem compile_error_first (lookup : Lookup) (maxDepth : Nat) (text : String) :
    (∀ name position, compile lookup maxDepth text = .error (.unknownReference name position) →
      ¬ IsKnown lookup name ∧ ∃ token way, FirstBlocked lookup maxDepth text token way name ∧
        token.offset = position) ∧
    (∀ chain, compile lookup maxDepth text = .error (.cyclicReference chain) →
      ∃ token way name, FirstBlocked lookup maxDepth text token way name ∧
        chain = way ++ [name] ∧ name ∈ way) ∧
    (∀ depth name, compile lookup maxDepth text = .error (.tooDeep depth name) →
      depth = maxDepth ∧ IsKnown lookup name ∧
        ∃ token way, FirstBlocked lookup maxDepth text token way name ∧
          way.length = maxDepth ∧ name ∉ way ∧
          (maxDepth = 0 → (mentions text).head? = some name)) := by
  refine ⟨fun name position h => ?_, fun chain h => ?_, fun depth name h => ?_⟩
  · obtain ⟨token, way, name', hblocked, hrefusal⟩ :=
      firstBlocked_of_compile h (by simp) (by simp)
    cases hrefusal with
    | unknown hname => exact ⟨hname, token, way, hblocked, rfl⟩
  · obtain ⟨token, way, name, hblocked, hrefusal⟩ :=
      firstBlocked_of_compile h (by simp) (by simp)
    cases hrefusal with
    | cyclic hname hagain =>
        exact ⟨token, way, name, hblocked, by simp, List.mem_reverse.1 hagain⟩
  · obtain ⟨token, way, name', hblocked, hrefusal⟩ :=
      firstBlocked_of_compile h (by simp) (by simp)
    cases hrefusal with
    | tooDeep hname hfresh hfull =>
        rw [List.length_reverse] at hfull
        refine ⟨rfl, hname, token, way, hblocked, hfull, by simpa using hfresh, ?_⟩
        rintro rfl
        obtain ⟨i, place, -, hproblem⟩ := hblocked.first
        exact hproblem.head?_eq_of_zero

/-- A name that is unknown in a fragment, a cycle that is not entered at its start, and a limit. -/
theorem compile_error_first_nested :
    let lookup := (Registry.empty.registerAll [⟨"A", "%{B}%{NOPE}"⟩, ⟨"B", "x"⟩,
      ⟨"C", "%{B}%{D}"⟩, ⟨"D", "%{C}%{NOPE}"⟩]).registry.lookup?
    (compile lookup 9 "é%{B}%{A}%{C}" = .error (.unknownReference "NOPE" 6) ∧
      ¬ IsKnown lookup "NOPE" ∧
      ∃ token way, FirstBlocked lookup 9 "é%{B}%{A}%{C}" token way "NOPE" ∧ token.offset = 6) ∧
    (compile lookup 9 "%{B}%{D}%{A}" = .error (.cyclicReference ["D", "C", "D"]) ∧
      ∃ token way name, FirstBlocked lookup 9 "%{B}%{D}%{A}" token way name ∧
        ["D", "C", "D"] = way ++ [name] ∧ name ∈ way) ∧
    (compile lookup 1 "%{B}%{C}%{NOPE}" = .error (.tooDeep 1 "B") ∧
      ∃ token way, FirstBlocked lookup 1 "%{B}%{C}%{NOPE}" token way "B" ∧ way.length = 1) := by
  intro lookup
  have hunknown : compile lookup 9 "é%{B}%{A}%{C}" = .error (.unknownReference "NOPE" 6) :=
    eq_error_of_error? (by decide +kernel)
  have hcyclic : compile lookup 9 "%{B}%{D}%{A}" = .error (.cyclicReference ["D", "C", "D"]) :=
    eq_error_of_error? (by decide +kernel)
  have hdeep : compile lookup 1 "%{B}%{C}%{NOPE}" = .error (.tooDeep 1 "B") :=
    eq_error_of_error? (by decide +kernel)
  obtain ⟨hname, token, way, hfirst⟩ := (compile_error_first _ _ _).1 _ _ hunknown
  obtain ⟨-, -, token', way', hfirst', hlength, -⟩ := (compile_error_first _ _ _).2.2 _ _ hdeep
  exact ⟨⟨hunknown, hname, token, way, hfirst⟩,
    ⟨hcyclic, (compile_error_first _ _ _).2.1 _ hcyclic⟩,
    ⟨hdeep, token', way', hfirst', hlength⟩⟩

end CompiledPattern

end LogPattern
