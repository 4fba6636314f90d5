import LogPattern.Proofs.Pattern.FieldGroups
import LogPattern.Registry.Basic
import Mathlib.Data.List.Chain
import Mathlib.Logic.Relation

/-!
# References between fragments

A fragment refers to the names in its tokens, so the names form a graph.  Whether a
text can be expanded is a question about the ways through this graph that begin at
its own tokens: every name on them must be known, none may come round to itself, and
none may be longer than the limit.  The order of the expansion and the chain that it
carries play no part in the answer.
-/

namespace LogPattern

/-! ## The graph of references -/

def Segment.reference? : Segment → Option String
  | .literal _ => none
  | .token inner => some inner.name

def mentions (text : String) : List String := (segments text).filterMap Segment.reference?

/-- The fragment of a name has a token with the next one. -/
def RefersTo (lookup : Lookup) (name next : String) : Prop :=
  ∃ fragment, lookup name = some fragment ∧ next ∈ mentions fragment

def IsKnown (lookup : Lookup) (name : String) : Prop :=
  isPatternName name = true ∧ (lookup name).isSome = true

/-- Some way of references leads from a token of the text to the name. -/
def IsReachable (lookup : Lookup) (text name : String) : Prop :=
  ∃ start ∈ mentions text, Relation.ReflTransGen (RefersTo lookup) start name

/-- A name that is reached from the text and leads back to itself. -/
def OnReachableCycle (lookup : Lookup) (text name : String) : Prop :=
  IsReachable lookup text name ∧ Relation.TransGen (RefersTo lookup) name name

/-- The conditions under which all references of a text can be followed. -/
structure Resolvable (lookup : Lookup) (maxDepth : Nat) (text : String) : Prop where
  known : ∀ name, IsReachable lookup text name → IsKnown lookup name
  acyclic : ∀ name, ¬ OnReachableCycle lookup text name
  /-- No way from a token has more names than the limit. -/
  shallow : ∀ start ∈ mentions text, ∀ way,
    (start :: way).IsChain (RefersTo lookup) → (start :: way).length ≤ maxDepth

theorem mem_mentions {text name : String} :
    name ∈ mentions text ↔ ∃ token, Segment.token token ∈ segments text ∧ token.name = name := by
  rw [mentions, List.mem_filterMap]
  constructor
  · rintro ⟨segment, hmem, hname⟩
    cases segment with
    | literal text => cases hname
    | token token => exact ⟨token, hmem, Option.some.inj hname⟩
  · rintro ⟨token, hmem, rfl⟩
    exact ⟨.token token, hmem, rfl⟩

/-- Where all ways are short, none comes round. -/
theorem not_transGen_self_of_bounded {α : Type} {r : α → α → Prop} {bound : Nat} {a : α}
    (h : ∀ way, (a :: way).IsChain r → way.length ≤ bound) : ¬ Relation.TransGen r a a := by
  induction bound generalizing a with
  | zero =>
      intro hcycle
      obtain ⟨b, hab, -⟩ := Relation.TransGen.head'_iff.1 hcycle
      have hle := h [b] (List.isChain_pair.2 hab)
      simp at hle
  | succ bound ih =>
      intro hcycle
      obtain ⟨b, hab, hba⟩ := Relation.TransGen.head'_iff.1 hcycle
      -- the way goes on at the next name, where one step less is left
      refine ih (fun way hway => ?_) (Relation.TransGen.tail'_iff.2 ⟨a, hba, hab⟩)
      have hle := h (b :: way) (hway.cons_cons hab)
      simp only [List.length_cons] at hle
      omega

theorem exists_way_of_reflTransGen {α : Type} {r : α → α → Prop} {a b : α}
    (h : Relation.ReflTransGen r a b) : ∃ way, (a :: way).IsChain r ∧ b ∈ a :: way := by
  obtain ⟨way, hway, hlast⟩ := List.exists_isChain_cons_of_relationReflTransGen h
  exact ⟨way, hway, hlast ▸ List.getLast_mem _⟩

theorem bounded_of_reflTransGen {α : Type} {r : α → α → Prop} {bound : Nat} {a b : α}
    (h : Relation.ReflTransGen r a b)
    (ha : ∀ way, (a :: way).IsChain r → way.length ≤ bound) :
    ∀ way, (b :: way).IsChain r → way.length ≤ bound := by
  induction h with
  | refl => exact ha
  | @tail b c _ hbc ih =>
      intro way hway
      have hle := ih (c :: way) (hway.cons_cons hbc)
      simp only [List.length_cons] at hle
      omega

/-! ## Folds of expansions -/

section Folds

variable {ε α σ : Type} {step step' : σ → α → Except ε σ} {parts : List α} {before after : σ}

theorem exists_ok_of_foldlM (h : parts.foldlM step before = .ok after) {part : α}
    (hpart : part ∈ parts) : ∃ s s', step s part = .ok s' := by
  induction parts generalizing before with
  | nil => cases hpart
  | cons first rest ih =>
      rw [List.foldlM_cons] at h
      obtain ⟨middle, hfirst, h⟩ := except_bind_eq_ok h
      rcases List.mem_cons.1 hpart with rfl | hrest
      · exact ⟨before, middle, hfirst⟩
      · exact ih h hrest

theorem exists_split_of_foldlM {e : ε} (h : parts.foldlM step before = .error e) :
    ∃ front part back middle, parts = front ++ part :: back ∧
      front.foldlM step before = .ok middle ∧ step middle part = .error e := by
  induction parts generalizing before with
  | nil => cases h
  | cons first rest ih =>
      rw [List.foldlM_cons] at h
      cases hfirst : step before first with
      | error e' =>
          rw [hfirst] at h
          cases h
          exact ⟨[], first, rest, before, rfl, rfl, hfirst⟩
      | ok next =>
          rw [hfirst] at h
          obtain ⟨front, part, back, middle, rfl, hfront, hpart⟩ := ih h
          refine ⟨first :: front, part, back, middle, rfl, ?_, hpart⟩
          rw [List.foldlM_cons, hfirst]
          exact hfront

theorem exists_error_of_foldlM {e : ε} (h : parts.foldlM step before = .error e) :
    ∃ part ∈ parts, ∃ s, step s part = .error e := by
  obtain ⟨front, part, back, middle, rfl, -, hpart⟩ := exists_split_of_foldlM h
  exact ⟨part, by simp, middle, hpart⟩

theorem foldlM_eq_of_forall_mem (h : ∀ part ∈ parts, ∀ s, step s part = step' s part) :
    parts.foldlM step before = parts.foldlM step' before := by
  induction parts generalizing before with
  | nil => rfl
  | cons first rest ih =>
      rw [List.foldlM_cons, List.foldlM_cons, h first List.mem_cons_self]
      congr 1
      funext middle
      exact ih fun part hpart => h part (List.mem_cons_of_mem _ hpart)

end Folds

namespace Expansion

/-! ## Where an expansion fails -/

/--
Why a name cannot be expanded behind a trail of names, the innermost first, that begins
at a token of the text at `position`.
-/
inductive Refusal (lookup : Lookup) (maxDepth position : Nat) (name : String)
    (trail : List String) : CompileError → Prop
  | unknown (hname : ¬ IsKnown lookup name) : Refusal lookup maxDepth position name trail
      (.unknownReference name position)
  | cyclic (hname : IsKnown lookup name) (hagain : name ∈ trail) :
      Refusal lookup maxDepth position name trail (.cyclicReference (name :: trail).reverse)
  | tooDeep (hname : IsKnown lookup name) (hfresh : name ∉ trail)
      (hfull : trail.length = maxDepth) :
      Refusal lookup maxDepth position name trail (.tooDeep maxDepth name)

/-- Names that refer to one another, the innermost first. -/
def IsTrail (lookup : Lookup) (names : List String) : Prop :=
  names.IsChain fun inner outer => RefersTo lookup outer inner

namespace IsTrail

variable {lookup : Lookup} {start name other : String} {trail : List String}

theorem reflTransGen_head (htrail : IsTrail lookup (name :: trail)) (h : other ∈ name :: trail) :
    Relation.ReflTransGen (RefersTo lookup) other name := by
  induction trail generalizing name with
  | nil =>
      obtain rfl : other = name := by simpa using h
      exact .refl
  | cons outer trail ih =>
      obtain ⟨hrefers, hrest⟩ := List.isChain_cons_cons.1 htrail
      rcases List.mem_cons.1 h with rfl | hother
      · exact .refl
      · exact (ih hrest hother).tail hrefers

theorem transGen_head (htrail : IsTrail lookup (name :: trail)) (h : other ∈ trail) :
    Relation.TransGen (RefersTo lookup) other name := by
  cases trail with
  | nil => cases h
  | cons outer trail =>
      obtain ⟨hrefers, hrest⟩ := List.isChain_cons_cons.1 htrail
      exact Relation.TransGen.tail'_iff.2 ⟨outer, reflTransGen_head hrest h, hrefers⟩

/-- The innermost name is reached from the outermost one. -/
theorem reflTransGen_start (htrail : IsTrail lookup (name :: trail))
    (hstart : [start] <:+ name :: trail) : Relation.ReflTransGen (RefersTo lookup) start name :=
  reflTransGen_head htrail (hstart.subset List.mem_cons_self)

theorem exists_way (htrail : IsTrail lookup (name :: trail)) (hstart : [start] <:+ name :: trail) :
    ∃ way, (name :: trail).reverse = start :: way ∧
      (start :: way).IsChain (RefersTo lookup) := by
  obtain ⟨inner, hinner⟩ := hstart
  have hway := List.isChain_reverse.2 htrail
  rw [← hinner] at hway ⊢
  exact ⟨inner.reverse, by simp, by simpa using hway⟩

end IsTrail

/-- A trail on which no name comes twice, of known names. -/
structure IsOpenTrail (lookup : Lookup) (trail : List String) : Prop where
  nodup : trail.Nodup
  known : ∀ name ∈ trail, IsKnown lookup name

namespace IsOpenTrail

variable {lookup : Lookup} {name : String} {trail : List String}

theorem nil : IsOpenTrail lookup [] := ⟨List.nodup_nil, fun _ hname => nomatch hname⟩

theorem cons (htrail : IsOpenTrail lookup trail) (hknown : IsKnown lookup name)
    (hfresh : name ∉ trail) : IsOpenTrail lookup (name :: trail) :=
  ⟨List.nodup_cons.2 ⟨hfresh, htrail.nodup⟩, List.forall_mem_cons.2 ⟨hknown, htrail.known⟩⟩

theorem tail (htrail : IsOpenTrail lookup trail) : IsOpenTrail lookup trail.tail :=
  ⟨htrail.nodup.tail, fun name hname => htrail.known name (List.mem_of_mem_tail hname)⟩

end IsOpenTrail

/-! ### One token -/

def expandSegment (lookup : Lookup) (maxDepth position depth : Nat) (chain : List String)
    (expansion : Expansion) : Segment → Except CompileError Expansion
  | .literal text => (expansion.append (neutralizeGroups text.toList)).checkLength chain
  | .token inner =>
      (expandToken lookup maxDepth position depth chain inner expansion).bind (checkLength chain)

section Token

variable {lookup : Lookup} {maxDepth position depth : Nat} {chain : List String} {token : Token}
  {before : Expansion}

theorem no_fragment_of_not_isKnown {name : String} (h : ¬ IsKnown lookup name) :
    (if isPatternName name then lookup name else none) = none := by
  split
  · next hname =>
      rw [← Option.not_isSome_iff_eq_none]
      exact fun hsome => h ⟨hname, hsome⟩
  · rfl

theorem expandToken_of_unknown (h : ¬ IsKnown lookup token.name) :
    expandToken lookup maxDepth position depth chain token before =
      .error (.unknownReference token.name position) := by
  rw [expandToken, no_fragment_of_not_isKnown h]

theorem exists_fragment_of_isKnown {name : String} (h : IsKnown lookup name) :
    ∃ fragment, lookup name = some fragment ∧
      (if isPatternName name then lookup name else none) = some fragment := by
  obtain ⟨fragment, hfragment⟩ := Option.isSome_iff_exists.1 h.2
  exact ⟨fragment, hfragment, by rw [if_pos h.1, hfragment]⟩

theorem expandToken_of_mem (h : IsKnown lookup token.name) (hmem : token.name ∈ chain) :
    expandToken lookup maxDepth position depth chain token before =
      .error (.cyclicReference (token.name :: chain).reverse) := by
  obtain ⟨fragment, -, hsome⟩ := exists_fragment_of_isKnown h
  rw [expandToken, hsome]
  simp [hmem]

theorem expandToken_zero (h : IsKnown lookup token.name) (hmem : token.name ∉ chain) :
    expandToken lookup maxDepth position 0 chain token before =
      .error (.tooDeep maxDepth token.name) := by
  obtain ⟨fragment, -, hsome⟩ := exists_fragment_of_isKnown h
  rw [expandToken, hsome]
  simp [hmem]

theorem expandToken_succ {fragment : String} (h : IsKnown lookup token.name)
    (hfragment : lookup token.name = some fragment) (hmem : token.name ∉ chain) :
    expandToken lookup maxDepth position (depth + 1) chain token before =
      ((segments fragment).foldlM
        (expandSegment lookup maxDepth position depth (token.name :: chain))
        (before.openToken token)).map (·.append [')']) := by
  have hfresh : chain.contains token.name = false := by simpa using hmem
  rw [expandToken, if_pos h.1, hfragment]
  simp only [hfresh, Bool.false_eq_true, if_false]
  rfl

theorem expandToken_cases (lookup : Lookup) (position : Nat) (token : Token) (before : Expansion)
    (hdepth : depth + chain.length = maxDepth) :
    (∃ e, expandToken lookup maxDepth position depth chain token before = .error e ∧
        Refusal lookup maxDepth position token.name chain e) ∨
      IsKnown lookup token.name ∧ token.name ∉ chain ∧
        ∃ fragment rest, lookup token.name = some fragment ∧ depth = rest + 1 ∧
          expandToken lookup maxDepth position depth chain token before =
            ((segments fragment).foldlM
              (expandSegment lookup maxDepth position rest (token.name :: chain))
              (before.openToken token)).map (·.append [')']) := by
  by_cases hknown : IsKnown lookup token.name
  swap
  · exact .inl ⟨_, expandToken_of_unknown hknown, .unknown hknown⟩
  by_cases hmem : token.name ∈ chain
  · exact .inl ⟨_, expandToken_of_mem hknown hmem, .cyclic hknown hmem⟩
  cases depth with
  | zero =>
      have hfull : chain.length = maxDepth := by omega
      exact .inl ⟨_, expandToken_zero hknown hmem, .tooDeep hknown hmem hfull⟩
  | succ rest =>
      obtain ⟨fragment, hfragment, -⟩ := exists_fragment_of_isKnown hknown
      exact .inr ⟨hknown, hmem, fragment, rest, hfragment, rfl,
        expandToken_succ hknown hfragment hmem⟩

theorem error_of_checkLength {e : CompileError} (h : before.checkLength chain = .error e) :
    ∃ problem, e = .invalidRegex problem := by
  unfold checkLength at h
  split at h
  · cases h
    exact ⟨_, rfl⟩
  · cases h

end Token

/-! ### Whole expansions -/

/--
An expansion that fails without growing too long has met a name that is refused, at the
end of a way that goes on from the chain and the token.
-/
theorem expandToken_error {lookup : Lookup} {maxDepth position depth : Nat}
    {chain : List String} {token : Token} {before : Expansion} {e : CompileError}
    (htrail : IsTrail lookup (token.name :: chain)) (hchain : IsOpenTrail lookup chain)
    (hdepth : depth + chain.length = maxDepth)
    (h : expandToken lookup maxDepth position depth chain token before = .error e) :
    (∃ problem, e = .invalidRegex problem) ∨
      ∃ name trail, token.name :: chain <:+ name :: trail ∧ IsTrail lookup (name :: trail) ∧
        IsOpenTrail lookup trail ∧ Refusal lookup maxDepth position name trail e := by
  induction depth using Nat.strong_induction_on generalizing chain token before with
  | _ depth ih =>
      rcases expandToken_cases lookup position token before hdepth with
        ⟨e', he', hrefusal⟩ | ⟨hknown, hfresh, fragment, rest, hfragment, rfl, hexpand⟩
      · obtain rfl := Except.error.inj (h.symm.trans he')
        exact .inr ⟨token.name, chain, List.suffix_refl _, htrail, hchain, hrefusal⟩
      -- the token itself is expanded, so a segment of its fragment fails
      rw [hexpand] at h
      obtain ⟨segment, hsegment, s, hs⟩ := exists_error_of_foldlM (except_map_eq_error h)
      cases segment with
      | literal text => exact .inl (error_of_checkLength hs)
      | token inner =>
          rcases except_bind_eq_error hs with hinner | ⟨s', -, hcheck⟩
          swap
          · exact .inl (error_of_checkLength hcheck)
          have hrefers : RefersTo lookup token.name inner.name :=
            ⟨fragment, hfragment, mem_mentions.2 ⟨inner, hsegment, rfl⟩⟩
          have hlength : rest + (token.name :: chain).length = maxDepth := by
            rw [List.length_cons]
            omega
          refine (ih rest (Nat.lt_succ_self rest) (htrail.cons_cons hrefers)
            (hchain.cons hknown hfresh) hlength hinner).imp_right ?_
          rintro ⟨name, trail, hsuffix, hrest⟩
          exact ⟨name, trail, (List.suffix_cons _ _).trans hsuffix, hrest⟩

/-- An expansion that succeeds has followed every way from its token to the end. -/
theorem expandToken_ok {lookup : Lookup} {maxDepth position depth : Nat}
    {chain : List String} {token : Token} {before after : Expansion}
    (h : expandToken lookup maxDepth position depth chain token before = .ok after)
    {way : List String} (hway : (token.name :: way).IsChain (RefersTo lookup)) :
    way.length < depth ∧ ∀ name ∈ token.name :: way, IsKnown lookup name := by
  induction depth generalizing chain token before after way with
  | zero =>
      obtain ⟨_, rest, _, -, hdepth, -⟩ := expandToken_inv h
      omega
  | succ depth ih =>
      have hknown : IsKnown lookup token.name := by
        by_contra hunknown
        rw [expandToken_of_unknown hunknown] at h
        cases h
      have hmem : token.name ∉ chain := by
        intro hmem
        rw [expandToken_of_mem hknown hmem] at h
        cases h
      cases way with
      | nil => simp [hknown]
      | cons next way =>
          obtain ⟨⟨fragment, hfragment, hnext⟩, hrest⟩ := List.isChain_cons_cons.1 hway
          obtain ⟨inner, hinner, rfl⟩ := mem_mentions.1 hnext
          rw [expandToken_succ hknown hfragment hmem] at h
          obtain ⟨filled, hfold, -⟩ := except_map_eq_ok h
          obtain ⟨s, s', hs⟩ := exists_ok_of_foldlM hfold hinner
          obtain ⟨expanded, hexpanded, -⟩ := except_bind_eq_ok hs
          obtain ⟨hlength, hnames⟩ := ih hexpanded hrest
          refine ⟨by simp only [List.length_cons]; omega, ?_⟩
          exact List.forall_mem_cons.2 ⟨hknown, hnames⟩

/-- Two limits that no way from the token passes lead to the same expansion. -/
theorem expandToken_eq_of_shallow {lookup : Lookup} {maxDepth maxDepth' position depth depth' : Nat}
    {chain : List String} {token : Token} {before : Expansion}
    (h : ∀ way, (token.name :: way).IsChain (RefersTo lookup) →
      way.length < depth ∧ way.length < depth') :
    expandToken lookup maxDepth position depth chain token before =
      expandToken lookup maxDepth' position depth' chain token before := by
  induction depth generalizing depth' chain token before with
  | zero => exact absurd (h [] (List.isChain_singleton _)).1 (Nat.not_lt_zero _)
  | succ depth ih =>
      cases depth' with
      | zero => exact absurd (h [] (List.isChain_singleton _)).2 (Nat.not_lt_zero _)
      | succ depth' =>
          by_cases hknown : IsKnown lookup token.name
          swap
          · rw [expandToken_of_unknown hknown, expandToken_of_unknown hknown]
          by_cases hmem : token.name ∈ chain
          · rw [expandToken_of_mem hknown hmem, expandToken_of_mem hknown hmem]
          obtain ⟨fragment, hfragment, -⟩ := exists_fragment_of_isKnown hknown
          rw [expandToken_succ hknown hfragment hmem, expandToken_succ hknown hfragment hmem]
          congr 1
          refine foldlM_eq_of_forall_mem fun segment hsegment s => ?_
          cases segment with
          | literal text => rfl
          | token inner =>
              have hrefers : RefersTo lookup token.name inner.name :=
                ⟨fragment, hfragment, mem_mentions.2 ⟨inner, hsegment, rfl⟩⟩
              rw [expandSegment, expandSegment, ih fun way hway => ?_]
              have hlt := h (inner.name :: way) (hway.cons_cons hrefers)
              simp only [List.length_cons] at hlt
              omega

/-! ### Pattern texts -/

/--
An expansion that fails at a token has expanded the tokens in front of it; one that fails
at a literal has grown too long.
-/
theorem exists_split_of_expandSegments {lookup : Lookup} {maxDepth : Nat} {first : Bool}
    {parts : List Segment} {before : Expansion} {e : CompileError}
    (h : expandSegments lookup maxDepth first parts before = .error e) :
    (∃ problem, e = .invalidRegex problem) ∨
      ∃ front token back s, parts = front ++ .token token :: back ∧
        (∀ inner, Segment.token inner ∈ front → ∃ s s',
          expandToken lookup maxDepth inner.offset maxDepth [] inner s = .ok s') ∧
        expandToken lookup maxDepth token.offset maxDepth [] token s = .error e := by
  induction parts generalizing first before with
  | nil => cases h
  | cons segment rest ih =>
      cases segment with
      | literal text =>
          rw [expandSegments_literal] at h
          rcases except_bind_eq_error h with hcheck | ⟨middle, -, hrest⟩
          · exact .inl (error_of_checkLength hcheck)
          · refine (ih hrest).imp_right ?_
            rintro ⟨front, token, back, s, rfl, hfront, htoken⟩
            refine ⟨.literal text :: front, token, back, s, rfl, fun inner hinner => ?_, htoken⟩
            exact hfront inner (by simpa using hinner)
      | token head =>
          rw [expandSegments_token] at h
          rcases except_bind_eq_error h with hhead | ⟨middle, hhead, hrest⟩
          · exact .inr ⟨[], head, rest, before, rfl, by simp, hhead⟩
          · refine (ih hrest).imp_right ?_
            rintro ⟨front, token, back, s, rfl, hfront, htoken⟩
            refine ⟨.token head :: front, token, back, s, rfl, fun inner hinner => ?_, htoken⟩
            rcases List.mem_cons.1 hinner with heq | hinner
            · cases heq
              exact ⟨before, middle, hhead⟩
            · exact hfront inner hinner

theorem expandSegments_ok {lookup : Lookup} {maxDepth : Nat} {first : Bool}
    {parts : List Segment} {before after : Expansion}
    (h : expandSegments lookup maxDepth first parts before = .ok after) {token : Token}
    (htoken : Segment.token token ∈ parts) :
    ∃ s s', expandToken lookup maxDepth token.offset maxDepth [] token s = .ok s' := by
  induction parts generalizing first before with
  | nil => cases htoken
  | cons segment rest ih =>
      cases segment with
      | literal text =>
          have hrest : Segment.token token ∈ rest := by simpa using htoken
          rw [expandSegments_literal] at h
          obtain ⟨middle, -, h⟩ := except_bind_eq_ok h
          exact ih h hrest
      | token head =>
          rw [expandSegments_token] at h
          obtain ⟨middle, hmiddle, h⟩ := except_bind_eq_ok h
          rcases List.mem_cons.1 htoken with heq | hrest
          · cases heq
            exact ⟨before, middle, hmiddle⟩
          · exact ih h hrest

theorem expandSegments_eq {lookup lookup' : Lookup} {maxDepth maxDepth' : Nat} {first : Bool}
    {parts : List Segment} {before : Expansion}
    (h : ∀ token, Segment.token token ∈ parts → ∀ s,
      expandToken lookup maxDepth token.offset maxDepth [] token s =
        expandToken lookup' maxDepth' token.offset maxDepth' [] token s) :
    expandSegments lookup maxDepth first parts before =
      expandSegments lookup' maxDepth' first parts before := by
  induction parts generalizing first before with
  | nil => rfl
  | cons segment rest ih =>
      have hrest (first : Bool) (s : Expansion) : expandSegments lookup maxDepth first rest s =
          expandSegments lookup' maxDepth' first rest s :=
        ih fun token htoken => h token (List.mem_cons_of_mem _ htoken)
      cases segment with
      | literal text => simp only [expandSegments, hrest]
      | token token => simp only [expandSegments, hrest, h token List.mem_cons_self]

end Expansion

namespace CompiledPattern

open Expansion

theorem ofText_eq_of_compile_error {lookup : Lookup} {maxDepth : Nat} {text : String}
    {e : CompileError} (h : compile lookup maxDepth text = .error e) :
    (∃ problem, e = .invalidRegex problem) ∨ ofText lookup maxDepth text = .error e := by
  rw [compile_eq_bind] at h
  rcases except_bind_eq_error h with hexpand | ⟨expansion, -, hfinal⟩
  · exact .inr hexpand
  · exact .inl (error_of_ofExpansion hfinal)

/--
A text that does not compile, though it is not empty and no regular expression is at
fault, has a token from which a way leads to a name that is refused.
-/
theorem compile_error {lookup : Lookup} {maxDepth : Nat} {text : String} {e : CompileError}
    (htext : text ≠ "") (h : compile lookup maxDepth text = .error e) :
    (∃ problem, e = .invalidRegex problem) ∨
      ∃ token name trail, Segment.token token ∈ segments text ∧
        [token.name] <:+ name :: trail ∧ IsTrail lookup (name :: trail) ∧
        IsOpenTrail lookup trail ∧ Refusal lookup maxDepth token.offset name trail e := by
  rcases ofText_eq_of_compile_error h with hproblem | hexpand
  · exact .inl hproblem
  · rw [ofText_of_ne_empty htext] at hexpand
    rcases exists_split_of_expandSegments hexpand with
      hproblem | ⟨front, token, back, s, hparts, -, htoken⟩
    · exact .inl hproblem
    · have hmem : Segment.token token ∈ segments text := by
        rw [hparts]
        simp
      refine (expandToken_error (List.isChain_singleton _) .nil rfl
        htoken).imp_right ?_
      rintro ⟨name, trail, hrest⟩
      exact ⟨token, name, trail, hmem, hrest⟩

/-- A cycle is reported only where there is one. -/
theorem exists_cycle_of_compile {lookup : Lookup} {maxDepth : Nat} {text : String}
    {names : List String} (htext : text ≠ "")
    (h : compile lookup maxDepth text = .error (.cyclicReference names)) :
    ∃ name, OnReachableCycle lookup text name := by
  obtain ⟨_, hproblem⟩ | ⟨token, name, trail, htoken, hstart, htrail, -, hrefusal⟩ :=
    compile_error htext h
  · cases hproblem
  · cases hrefusal with
    | cyclic hname hagain =>
        exact ⟨name, ⟨token.name, mem_mentions.2 ⟨token, htoken, rfl⟩,
          htrail.reflTransGen_start hstart⟩, htrail.transGen_head hagain⟩

theorem compile_error_of_resolvable {lookup : Lookup} {maxDepth : Nat} {text : String}
    {e : CompileError} (htext : text ≠ "") (hresolvable : Resolvable lookup maxDepth text)
    (h : compile lookup maxDepth text = .error e) : ∃ problem, e = .invalidRegex problem := by
  obtain hproblem | ⟨token, name, trail, htoken, hstart, htrail, -, hrefusal⟩ :=
    compile_error htext h
  · exact hproblem
  · have hstarts : token.name ∈ mentions text := mem_mentions.2 ⟨token, htoken, rfl⟩
    have hreachable : IsReachable lookup text name :=
      ⟨token.name, hstarts, htrail.reflTransGen_start hstart⟩
    cases hrefusal with
    | unknown hname => exact absurd (hresolvable.known name hreachable) hname
    | cyclic hname hagain =>
        exact absurd ⟨hreachable, htrail.transGen_head hagain⟩ (hresolvable.acyclic name)
    | tooDeep hname hfresh hfull =>
        obtain ⟨way, heq, hway⟩ := htrail.exists_way hstart
        have hle := hresolvable.shallow token.name hstarts way hway
        rw [← heq, List.length_reverse, List.length_cons] at hle
        omega

theorem resolvable_of_ways {lookup : Lookup} {maxDepth : Nat} {text : String}
    (h : ∀ start ∈ mentions text, ∀ way, (start :: way).IsChain (RefersTo lookup) →
      way.length < maxDepth ∧ ∀ name ∈ start :: way, IsKnown lookup name) :
    Resolvable lookup maxDepth text := by
  refine ⟨fun name ⟨start, hstart, hreach⟩ => ?_, fun name ⟨⟨start, hstart, hreach⟩, hcycle⟩ => ?_,
    fun start hstart way hway => (h start hstart way hway).1⟩
  · obtain ⟨way, hway, hname⟩ := exists_way_of_reflTransGen hreach
    exact (h start hstart way hway).2 name hname
  · exact not_transGen_self_of_bounded
      (bounded_of_reflTransGen hreach fun way hway => (h start hstart way hway).1.le) hcycle

/-- Whatever compiles could follow all its references. -/
theorem resolvable_of_compile {lookup : Lookup} {maxDepth : Nat} {text : String}
    {pattern : CompiledPattern} (h : compile lookup maxDepth text = .ok pattern) :
    Resolvable lookup maxDepth text := by
  obtain ⟨expansion, hexpand, -⟩ := compile_inv h
  refine resolvable_of_ways fun start hstart way hway => ?_
  obtain ⟨token, htoken, rfl⟩ := mem_mentions.1 hstart
  obtain ⟨s, s', hs⟩ := expandSegments_ok (expandSegments_of_ofText hexpand) htoken
  exact expandToken_ok hs hway

theorem compile_eq_of_resolvable {lookup : Lookup} {maxDepth maxDepth' : Nat} {text : String}
    (h : Resolvable lookup maxDepth text) (h' : Resolvable lookup maxDepth' text) :
    compile lookup maxDepth text = compile lookup maxDepth' text := by
  have hexpand : ofText lookup maxDepth text = ofText lookup maxDepth' text := by
    rw [ofText, ofText, expandSegments_eq fun token htoken s => ?_]
    have hstarts : token.name ∈ mentions text := mem_mentions.2 ⟨token, htoken, rfl⟩
    exact expandToken_eq_of_shallow fun way hway =>
      ⟨h.shallow token.name hstarts way hway, h'.shallow token.name hstarts way hway⟩
  rw [compile, compile, hexpand]

/--
A text that is not empty and whose references can all be followed compiles unless its
regular expression is at fault, and every sufficient limit leads to the same result.
Otherwise it does not compile; but two ways to one name are never taken for a cycle.
-/
theorem resolvable_decides_compile {lookup : Lookup} {maxDepth : Nat} {text : String}
    (htext : text ≠ "") :
    (Resolvable lookup maxDepth text →
      (∀ e, compile lookup maxDepth text = .error e → ∃ problem, e = .invalidRegex problem) ∧
      ∀ maxDepth', Resolvable lookup maxDepth' text →
        compile lookup maxDepth' text = compile lookup maxDepth text) ∧
    (¬ Resolvable lookup maxDepth text → ∃ e, compile lookup maxDepth text = .error e) ∧
    (∀ names, compile lookup maxDepth text = .error (.cyclicReference names) →
      ∃ name, OnReachableCycle lookup text name) := by
  refine ⟨fun hresolvable => ⟨fun e h => compile_error_of_resolvable htext hresolvable h,
    fun maxDepth' h => compile_eq_of_resolvable h hresolvable⟩, fun hresolvable => ?_,
    fun names h => exists_cycle_of_compile htext h⟩
  cases h : compile lookup maxDepth text with
  | error e => exact ⟨e, rfl⟩
  | ok pattern => exact absurd (resolvable_of_compile h) hresolvable

/-- Two ways lead to one name, and the limit is the length of the longest way. -/
theorem resolvable_decides_compile_diamond :
    let registry := (Registry.empty.registerAll [⟨"TOP", "%{LEFT}%{RIGHT}"⟩,
      ⟨"LEFT", "%{BASE}"⟩, ⟨"RIGHT", "%{BASE}"⟩, ⟨"BASE", "x"⟩]).registry
    "%{TOP}" ≠ "" ∧ Resolvable registry.lookup? 3 "%{TOP}" ∧
      ¬ Resolvable registry.lookup? 2 "%{TOP}" ∧
      (compile registry.lookup? 3 "%{TOP}").isOk = true ∧
      ∀ maxDepth, Resolvable registry.lookup? maxDepth "%{TOP}" →
        compile registry.lookup? maxDepth "%{TOP}" = compile registry.lookup? 3 "%{TOP}" := by
  intro registry
  have htext : "%{TOP}" ≠ "" := by decide
  have hcompiles : (compile registry.lookup? 3 "%{TOP}").isOk = true := by decide +kernel
  have hresolvable : Resolvable registry.lookup? 3 "%{TOP}" := by
    by_contra hnot
    obtain ⟨e, he⟩ := (resolvable_decides_compile htext).2.1 hnot
    rw [he] at hcompiles
    cases hcompiles
  refine ⟨htext, hresolvable, fun hshallow => ?_, hcompiles,
    ((resolvable_decides_compile htext).1 hresolvable).2⟩
  have hdeep : (match compile registry.lookup? 2 "%{TOP}" with
      | .error (.tooDeep _ _) => true
      | _ => false) = true := by decide +kernel
  split at hdeep
  · next he =>
      obtain ⟨problem, hproblem⟩ := ((resolvable_decides_compile htext).1 hshallow).1 _ he
      cases hproblem
  · cases hdeep

end CompiledPattern

end LogPattern
