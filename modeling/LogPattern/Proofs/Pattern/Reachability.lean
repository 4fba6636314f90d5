import LogPattern.Proofs.Registry.Run

/-!
# What a compilation reads

A text is compiled from the fragments that its references lead to.  No other fragment is
looked at, whether the compilation succeeds or fails, so none of the others can be told from
a name that stands for nothing.
-/

namespace LogPattern

/-- The lookups answer alike for all names that are reached from the text. -/
def AgreeFrom (lookup lookup' : Lookup) (text : String) : Prop :=
  ∀ name, IsReachable lookup text name → lookup' name = lookup name

theorem IsReachable.mem_of_closed {lookup : Lookup} {text name : String} {names : List String}
    (h : IsReachable lookup text name) (hstart : ∀ start ∈ mentions text, start ∈ names)
    (hclosed : ∀ outer ∈ names, ∀ fragment ∈ lookup outer, ∀ inner ∈ mentions fragment,
      inner ∈ names) : name ∈ names := by
  obtain ⟨start, hmentioned, hleads⟩ := h
  induction hleads with
  | refl => exact hstart start hmentioned
  | tail _ hrefers ih =>
      obtain ⟨fragment, hfragment, hinner⟩ := hrefers
      exact hclosed _ ih fragment hfragment _ hinner

namespace Expansion

/-- Lookups that answer alike for whatever the token leads to expand it alike. -/
theorem expandToken_eq_of_agree {lookup lookup' : Lookup} {maxDepth position depth : Nat}
    {chain : List String} {token : Token} {before : Expansion}
    (h : ∀ name, Relation.ReflTransGen (RefersTo lookup) token.name name →
      lookup' name = lookup name) :
    expandToken lookup' maxDepth position depth chain token before =
      expandToken lookup maxDepth position depth chain token before := by
  induction depth generalizing chain token before with
  | zero =>
      have hsame := h token.name .refl
      rw [expandToken, expandToken, hsame]
  | succ depth ih =>
      have hsame := h token.name .refl
      by_cases hknown : IsKnown lookup token.name
      swap
      · have hunknown : ¬ IsKnown lookup' token.name := by rwa [IsKnown, hsame]
        rw [expandToken_of_unknown hknown, expandToken_of_unknown hunknown]
      have hknown' : IsKnown lookup' token.name := by rwa [IsKnown, hsame]
      by_cases hmem : token.name ∈ chain
      · rw [expandToken_of_mem hknown hmem, expandToken_of_mem hknown' hmem]
      obtain ⟨fragment, hfragment, -⟩ := exists_fragment_of_isKnown hknown
      rw [expandToken_succ hknown hfragment hmem,
        expandToken_succ hknown' (hsame.trans hfragment) hmem]
      congr 1
      refine foldlM_eq_of_forall_mem fun segment hsegment s => ?_
      cases segment with
      | literal text => rfl
      | token inner =>
          -- what is reached from a token of the fragment is reached from the token itself
          have hrefers : RefersTo lookup token.name inner.name :=
            ⟨fragment, hfragment, mem_mentions.2 ⟨inner, hsegment, rfl⟩⟩
          rw [expandSegment, expandSegment, ih fun name hleads => h name (.head hrefers hleads)]

end Expansion

namespace CompiledPattern

open Expansion

theorem compile_eq_of_agreeFrom {lookup lookup' : Lookup} {text : String}
    (h : AgreeFrom lookup lookup' text) (maxDepth : Nat) :
    compile lookup' maxDepth text = compile lookup maxDepth text := by
  have hexpand : ofText lookup' maxDepth text = ofText lookup maxDepth text := by
    rw [ofText, ofText, expandSegments_eq fun token htoken s => ?_]
    exact expandToken_eq_of_agree fun name hleads =>
      h name ⟨token.name, mem_mentions.2 ⟨token, htoken, rfl⟩, hleads⟩
  rw [compile, compile, hexpand]

end CompiledPattern

namespace Registry

/-- What is registered under other names leaves the answers for all reachable ones. -/
theorem agreeFrom_run {registry : Registry} {text : String} {operations : List Operation}
    (h : ∀ operation ∈ operations, ∀ pattern ∈ operation.patterns,
      ¬ IsReachable registry.lookup? text pattern.name) :
    AgreeFrom registry.lookup? (registry.run operations).lookup? text := by
  intro name hreachable
  have hnone : lastFragment? (operations.flatMap Operation.accepted) name = none := by
    rw [lastFragment?, Option.map_eq_none_iff, List.find?_eq_none]
    intro pattern hpattern hname
    obtain ⟨operation, hoperation, haccepted⟩ := List.mem_flatMap.1 (List.mem_reverse.1 hpattern)
    refine h operation hoperation pattern ((List.takeWhile_subset _) haccepted) ?_
    rwa [of_decide_eq_true hname]
  rw [run_eq, lookup?_putAll, hnone, Option.none_or]

end Registry

namespace CompiledPattern

/--
The result of a compilation, with its error if it fails, depends on the answers for the names
that are reached from the text, and on no others.  So whatever is registered, overwritten or
loaded under names that are not reached, the text compiles as before and matches as before.
-/
theorem compile_depends_on_reachable (maxDepth : Nat) (text : String) :
    (∀ lookup lookup' : Lookup,
      (∀ name, IsReachable lookup text name → lookup' name = lookup name) →
        compile lookup' maxDepth text = compile lookup maxDepth text) ∧
    (∀ (registry : Registry) (operations : List Registry.Operation),
      (∀ operation ∈ operations, ∀ pattern ∈ operation.patterns,
        ¬ IsReachable registry.lookup? text pattern.name) →
        compile (registry.run operations).lookup? maxDepth text =
          compile registry.lookup? maxDepth text ∧
        ∀ pattern pattern', compile registry.lookup? maxDepth text = .ok pattern →
          compile (registry.run operations).lookup? maxDepth text = .ok pattern' →
          ∀ line, pattern'.matchLine line = pattern.matchLine line) := by
  refine ⟨fun lookup lookup' h => compile_eq_of_agreeFrom h maxDepth,
    fun registry operations h => ?_⟩
  have hsame := compile_eq_of_agreeFrom (Registry.agreeFrom_run h) maxDepth
  refine ⟨hsame, fun pattern pattern' hpattern hpattern' line => ?_⟩
  rw [hsame, hpattern] at hpattern'
  rw [Except.ok.inj hpattern']

/-- Of a name that is not reached, the fragment may be missing or no regular expression. -/
theorem compile_depends_on_reachable_overwritten :
    let registry := (Registry.empty.registerAll
      [⟨"A", "<%{B:digit}>"⟩, ⟨"B", "[0-9]"⟩, ⟨"C", "%{A}"⟩]).registry
    let smaller := (Registry.empty.registerAll [⟨"B", "[0-9]"⟩, ⟨"A", "<%{B:digit}>"⟩]).registry
    let operations : List Registry.Operation :=
      [.register "C" "(", .load "D %{C}%{D}\n" "more", .registerAll [⟨"C", "%{NOPE}"⟩]]
    (∀ name, IsReachable registry.lookup? "%{A:whole}" name →
      smaller.lookup? name = registry.lookup? name) ∧
    (∀ operation ∈ operations, ∀ pattern ∈ operation.patterns,
      ¬ IsReachable registry.lookup? "%{A:whole}" pattern.name) ∧
    ∃ pattern, compile registry.lookup? 2 "%{A:whole}" = .ok pattern ∧
      compile smaller.lookup? 2 "%{A:whole}" = .ok pattern ∧
      compile (registry.run operations).lookup? 2 "%{A:whole}" = .ok pattern := by
  intro registry smaller operations
  have hreached : ∀ name, IsReachable registry.lookup? "%{A:whole}" name → name ∈ ["A", "B"] := by
    intro name hname
    refine hname.mem_of_closed ?_ ?_ <;> decide +kernel
  have hagree : ∀ name, IsReachable registry.lookup? "%{A:whole}" name →
      smaller.lookup? name = registry.lookup? name := by
    intro name hname
    have hsame : ∀ name ∈ ["A", "B"], smaller.lookup? name = registry.lookup? name := by
      decide +kernel
    exact hsame name (hreached name hname)
  have hother : ∀ operation ∈ operations, ∀ pattern ∈ operation.patterns,
      ¬ IsReachable registry.lookup? "%{A:whole}" pattern.name := by
    intro operation hoperation pattern hpattern hname
    have hnot : ∀ operation ∈ operations, ∀ pattern ∈ operation.patterns,
        pattern.name ∉ ["A", "B"] := by
      decide +kernel
    exact hnot operation hoperation pattern hpattern (hreached _ hname)
  obtain ⟨pattern, hpattern, -⟩ :
      ∃ pattern, compile registry.lookup? 2 "%{A:whole}" = .ok pattern ∧
        (pattern.expanded == "(?P<f0><(?P<f1>[0-9])>)") = true :=
    except_exists_ok (by decide +kernel)
  refine ⟨hagree, hother, pattern, hpattern, ?_, ?_⟩
  · rw [(compile_depends_on_reachable 2 _).1 _ _ hagree, hpattern]
  · rw [((compile_depends_on_reachable 2 _).2 _ _ hother).1, hpattern]

end CompiledPattern

end LogPattern
