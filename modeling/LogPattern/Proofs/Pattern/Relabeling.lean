import LogPattern.Proofs.Pattern.Labels

/-!
# Compiling with other labels

The expansions of a text with the old and with the new labels run side by side.  They write
the same characters and enter as many fields, and where one of them fails the other one
fails in the same way, though perhaps with another offset.
-/

namespace LogPattern

/-- Both computations fail, with errors of one kind, or both succeed with related results. -/
inductive EndAlike {α β : Type} (R : α → β → Prop) :
    Except CompileError α → Except CompileError β → Prop
  | ok {a : α} {b : β} (h : R a b) : EndAlike R (.ok a) (.ok b)
  | error {e e' : CompileError} (h : e'.kind = e.kind) : EndAlike R (.error e) (.error e')

namespace EndAlike

variable {α β γ δ : Type} {R : α → β → Prop} {S : γ → δ → Prop} {x : Except CompileError α}
  {y : Except CompileError β}

theorem bind {f : α → Except CompileError γ} {g : β → Except CompileError δ}
    (h : EndAlike R x y) (hnext : ∀ a b, R a b → EndAlike S (f a) (g b)) :
    EndAlike S (x.bind f) (y.bind g) := by
  cases h with
  | ok h => exact hnext _ _ h
  | error h => exact .error h

theorem map {f : α → γ} {g : β → δ} (h : EndAlike R x y)
    (hmap : ∀ a b, R a b → S (f a) (g b)) : EndAlike S (x.map f) (y.map g) := by
  cases h with
  | ok h => exact .ok (hmap _ _ h)
  | error h => exact .error h

/-- Steps over related parts end alike if each of them does. -/
theorem foldlM {π ρ : Type} {Q : π → ρ → Prop} {step : α → π → Except CompileError α}
    {step' : β → ρ → Except CompileError β} {parts : List π} {parts' : List ρ} {a : α} {b : β}
    (hparts : List.Forall₂ Q parts parts') (h : R a b)
    (hstep : ∀ part part', part ∈ parts → Q part part' →
      ∀ a b, R a b → EndAlike R (step a part) (step' b part')) :
    EndAlike R (parts.foldlM step a) (parts'.foldlM step' b) := by
  induction hparts generalizing a b with
  | nil => exact .ok h
  | cons hpart _ ih =>
      rw [List.foldlM_cons, List.foldlM_cons]
      apply (hstep _ _ List.mem_cons_self hpart _ _ h).bind
      intro a b h
      apply ih h
      intro part part' hmem
      exact hstep part part' (List.mem_cons_of_mem _ hmem)

end EndAlike

namespace Expansion

/-- The expansions have the same text and as many fields. -/
structure SameText (before other : Expansion) : Prop where
  text : other.text = before.text
  size : other.fields.size = before.fields.size

namespace SameText

variable {before other : Expansion}

theorem append (h : before.SameText other) (text : List Char) :
    (before.append text).SameText (other.append text) :=
  ⟨congrArg (· ++ String.ofList text) h.text, h.size⟩

theorem checkLength (h : before.SameText other) (chain : List String) :
    EndAlike SameText (before.checkLength chain) (other.checkLength chain) := by
  rw [Expansion.checkLength, Expansion.checkLength, h.text]
  split
  · exact .error rfl
  · exact .ok h

/-- An opener has a number, but neither the field nor the hint of its token. -/
theorem openToken {token token' : Token} (h : before.SameText other)
    (htoken : token.Relabeled token') :
    (before.openToken token).SameText (other.openToken token') := by
  have hfield := htoken.field
  rw [Expansion.openToken, Expansion.openToken]
  cases hname : token.field with
  | none =>
      cases hname' : token'.field with
      | none => exact h.append _
      | some name' => simp [hname, hname'] at hfield
  | some name =>
      cases hname' : token'.field with
      | none => simp [hname, hname'] at hfield
      | some name' =>
          constructor
          · simp only [Expansion.append, h.text, h.size]
          · simp only [Array.size_push, h.size]

end SameText

section Relabeled

variable {lookup lookup' : Lookup} {maxDepth position position' depth : Nat}
  {chain : List String} {token token' : Token} {before other : Expansion}

theorem isKnown_relabeled (h : RelabeledLookup lookup lookup') (name : String) :
    IsKnown lookup' name ↔ IsKnown lookup name := by
  have hname := h name
  rw [IsKnown, IsKnown]
  generalize lookup name = answer at hname
  generalize lookup' name = answer' at hname
  cases hname with
  | some h => exact Iff.rfl
  | none => exact Iff.rfl

/-- A token with other labels, over fragments with other labels, is expanded to the same text. -/
theorem expandToken_relabeled (hlookup : RelabeledLookup lookup lookup')
    (htoken : token.Relabeled token') (h : before.SameText other) :
    EndAlike SameText (expandToken lookup maxDepth position depth chain token before)
      (expandToken lookup' maxDepth position' depth chain token' other) := by
  induction depth using Nat.strongRecOn generalizing chain token token' before other with
  | ind depth ih =>
      by_cases hknown : IsKnown lookup token.name
      swap
      · have hunknown : ¬ IsKnown lookup' token'.name := by
          rwa [htoken.name, isKnown_relabeled hlookup]
        rw [expandToken_of_unknown hknown, expandToken_of_unknown hunknown]
        exact .error rfl
      have hknown' : IsKnown lookup' token'.name := by
        rwa [htoken.name, isKnown_relabeled hlookup]
      by_cases hmem : token.name ∈ chain
      · rw [expandToken_of_mem hknown hmem, expandToken_of_mem hknown' (htoken.name ▸ hmem)]
        exact .error rfl
      have hmem' : token'.name ∉ chain := htoken.name ▸ hmem
      cases depth with
      | zero =>
          rw [expandToken_zero hknown hmem, expandToken_zero hknown' hmem']
          exact .error rfl
      | succ depth =>
          obtain ⟨fragment, hfragment, -⟩ := exists_fragment_of_isKnown hknown
          obtain ⟨fragment', hfragment', -⟩ := exists_fragment_of_isKnown hknown'
          rw [expandToken_succ hknown hfragment hmem, expandToken_succ hknown' hfragment' hmem',
            htoken.name]
          have hfragments := hlookup.fragments hfragment (htoken.name ▸ hfragment')
          apply EndAlike.map (R := SameText)
          swap
          · intro a b hsame
            exact hsame.append [')']
          apply EndAlike.foldlM (relabeled_segments hfragments) (h.openToken htoken)
          intro segment segment' _ hsegment a b hsame
          cases hsegment with
          | literal text => exact (hsame.append _).checkLength _
          | token hinner =>
              apply (ih depth (Nat.lt_succ_self depth) hinner hsame).bind
              intro a b hsame
              exact hsame.checkLength _

theorem expandSegments_relabeled (hlookup : RelabeledLookup lookup lookup') {first : Bool}
    {parts parts' : List Segment} (hparts : List.Forall₂ Segment.Relabeled parts parts')
    (h : before.SameText other) :
    EndAlike SameText (expandSegments lookup maxDepth first parts before)
      (expandSegments lookup' maxDepth first parts' other) := by
  induction hparts generalizing first before other with
  | nil => exact .ok h
  | @cons segment segment' rest rest' hsegment hrest ih =>
      cases hsegment with
      | literal text =>
          have hlast : rest'.isEmpty = rest.isEmpty := by
            cases hrest <;> rfl
          rw [expandSegments_literal, expandSegments_literal, hlast]
          apply ((h.append _).checkLength []).bind
          intro a b hsame
          exact ih hsame
      | token htoken =>
          rw [expandSegments_token, expandSegments_token]
          apply (expandToken_relabeled hlookup htoken h).bind
          intro a b hsame
          exact ih hsame

theorem ofText_relabeled (hlookup : RelabeledLookup lookup lookup') {text text' : String}
    (htext : Relabeled text.toList text'.toList) (maxDepth : Nat) :
    EndAlike SameText (ofText lookup maxDepth text) (ofText lookup' maxDepth text') := by
  have hempty : text'.isEmpty = text.isEmpty := by
    rw [Bool.eq_iff_iff, String.isEmpty_iff, String.isEmpty_iff, ← String.toList_eq_nil_iff,
      ← String.toList_eq_nil_iff]
    exact htext.eq_nil_iff
  rw [ofText, ofText, hempty]
  split
  · exact .error rfl
  · exact expandSegments_relabeled hlookup (relabeled_segments htext) ⟨rfl, rfl⟩

end Relabeled

end Expansion

namespace CompiledPattern

open Expansion

/-- The patterns have the same regular expression and as many fields. -/
structure SameRegex (pattern other : CompiledPattern) : Prop where
  expanded : other.expanded = pattern.expanded
  regex : other.regex = pattern.regex
  length : other.fields.length = pattern.fields.length

theorem ofExpansion_endAlike {expansion expansion' : Expansion}
    (h : expansion.SameText expansion') (text text' : String) :
    EndAlike SameRegex (ofExpansion text expansion) (ofExpansion text' expansion') := by
  have hlength : expansion'.fields.toList.length = expansion.fields.toList.length := by
    simpa using h.size
  rw [ofExpansion, ofExpansion, h.text]
  cases Regex.ofText? expansion.text.toList with
  | error fault => exact .error rfl
  | ok regex =>
      simp only [hlength]
      split
      · exact .ok ⟨rfl, rfl, hlength⟩
      · exact .error rfl

theorem compile_endAlike {lookup lookup' : Lookup} {text text' : String}
    (hlookup : RelabeledLookup lookup lookup') (htext : Relabeled text.toList text'.toList)
    (maxDepth : Nat) :
    EndAlike SameRegex (compile lookup maxDepth text) (compile lookup' maxDepth text') := by
  rw [compile_eq_bind, compile_eq_bind]
  apply (ofText_relabeled hlookup htext maxDepth).bind
  intro expansion expansion' h
  exact ofExpansion_endAlike h text text'

/--
With other labels in the text and in the fragments, a text compiles if it did before, and fails
in the same way if it did not.  The regular expression stays the same, so on every line the
same groups take the same parts.  The schema is as long as before, and it lists the labels of
a forest of the same shape, each token of which has the new labels in place of the old ones.
-/
theorem compile_relabeled {lookup lookup' : Lookup} {text text' : String}
    (hlookup : RelabeledLookup lookup lookup') (htext : Relabeled text.toList text'.toList)
    (maxDepth : Nat) :
    (∀ e, compile lookup maxDepth text = .error e →
      ∃ e', compile lookup' maxDepth text' = .error e' ∧ e'.kind = e.kind) ∧
    ∀ pattern, compile lookup maxDepth text = .ok pattern →
      ∃ pattern', compile lookup' maxDepth text' = .ok pattern' ∧
        pattern'.expanded = pattern.expanded ∧ pattern'.regex = pattern.regex ∧
        pattern'.fields.length = pattern.fields.length ∧
        (∃ forest forest', Unfolds lookup (tokens text) forest ∧
          Unfolds lookup' (tokens text') forest' ∧ forest.Relabeled forest' ∧
          pattern.fields = forest.schema ∧ pattern'.fields = forest'.schema) ∧
        ∀ line, pattern'.matchLine line = (pattern.regex.captures? line.toList).map fun spans =>
          fieldMap pattern'.fields spans.tail line.toList := by
  have hcompile := compile_endAlike hlookup htext maxDepth
  constructor
  · intro e he
    rw [he] at hcompile
    generalize compile lookup' maxDepth text' = result' at hcompile
    cases hcompile with
    | error h => exact ⟨_, rfl, h⟩
  · intro pattern hpattern
    rw [hpattern] at hcompile
    cases hpattern' : compile lookup' maxDepth text' with
    | error e' =>
        rw [hpattern'] at hcompile
        cases hcompile
    | ok pattern' =>
        rw [hpattern'] at hcompile
        cases hcompile with
        | ok h =>
            obtain ⟨forest, hforest, hfields, -⟩ := unfolds_of_compile hpattern
            obtain ⟨forest', hforest', hfields', -⟩ := unfolds_of_compile hpattern'
            have hsame := hforest.relabeled hlookup hforest' (relabeled_tokens htext)
            refine ⟨pattern', rfl, h.expanded, h.regex, h.length,
              ⟨forest, forest', hforest, hforest', hsame, hfields, hfields'⟩, ?_⟩
            intro line
            rw [matchLine, h.regex]

/--
A field is renamed to one that looks like a token, a hint comes to a field and another one
goes, and one is renamed inside a fragment.
-/
theorem compile_relabeled_nested :
    let registry := (Registry.empty.put "A" "<%{B:digit:int}>").put "B" "[0-9]"
    let registry' := (Registry.empty.put "A" "<%\x7bB:(\x7d>").put "B" "[0-9]"
    let text := "é%{A:whole}%{B::int}"
    let text' := "é%\x7bA:%\x7bB:a:b\x7d%{B}"
    RelabeledLookup registry.lookup? registry'.lookup? ∧
      Relabeled text.toList text'.toList ∧
      ∃ pattern pattern', compile registry.lookup? defaultMaxDepth text = .ok pattern ∧
        compile registry'.lookup? defaultMaxDepth text' = .ok pattern' ∧
        pattern'.regex = pattern.regex ∧
        pattern.fields = [⟨"whole", "%{A:whole}", none⟩, ⟨"digit", "%{B:digit:int}", some "int"⟩] ∧
        pattern'.fields = [⟨"%\x7bB", "%\x7bA:%\x7bB:a:b\x7d", some "a:b"⟩,
          ⟨"(", "%\x7bB:(\x7d", none⟩] := by
  intro registry registry' text text'
  have hfragment : Relabeled "<%{B:digit:int}>".toList "<%\x7bB:(\x7d>".toList := by
    apply @Relabeled.token _ _ "<".toList "B".toList ">".toList ">".toList
      (.fieldAndHint "digit".toList "int".toList) (.field "(".toList)
    case hback => exact .plain (by decide)
    case hlabels => exact ⟨by decide, by decide, by decide⟩
    case hlabels' => exact ⟨by decide, by decide⟩
    all_goals decide
  have htext : Relabeled text.toList text'.toList := by
    apply @Relabeled.token _ _ "é".toList "A".toList "%{B::int}".toList "%{B}".toList
      (.field "whole".toList) (.fieldAndHint "%\x7bB".toList "a:b".toList)
    case hback =>
      apply @Relabeled.token _ _ [] "B".toList [] [] (.fieldAndHint [] "int".toList) .none
      case hback => exact .plain (by decide)
      case hlabels => exact ⟨by decide, by decide, by decide⟩
      case hlabels' => exact trivial
      all_goals decide
    case hlabels => exact ⟨by decide, by decide⟩
    case hlabels' => exact ⟨by decide, by decide, by decide⟩
    all_goals decide
  have hlookup : RelabeledLookup registry.lookup? registry'.lookup? := by
    intro name
    simp only [registry, registry', Registry.lookup?_put, Registry.lookup?_empty]
    split
    · exact .some (.refl _)
    · split
      · exact .some hfragment
      · exact .none
  obtain ⟨pattern, hpattern, hfields⟩ :
      ∃ pattern, compile registry.lookup? defaultMaxDepth text = .ok pattern ∧
        decide (pattern.fields = [⟨"whole", "%{A:whole}", none⟩,
          ⟨"digit", "%{B:digit:int}", some "int"⟩]) = true :=
    except_exists_ok (by decide +kernel)
  obtain ⟨other, hother, hfields'⟩ :
      ∃ pattern', compile registry'.lookup? defaultMaxDepth text' = .ok pattern' ∧
        decide (pattern'.fields = [⟨"%\x7bB", "%\x7bA:%\x7bB:a:b\x7d", some "a:b"⟩,
          ⟨"(", "%\x7bB:(\x7d", none⟩]) = true :=
    except_exists_ok (by decide +kernel)
  obtain ⟨pattern', hpattern', -, hregex, -⟩ :=
    (compile_relabeled hlookup htext defaultMaxDepth).2 pattern hpattern
  obtain rfl : other = pattern' := Except.ok.inj (hother.symm.trans hpattern')
  exact ⟨hlookup, htext, pattern, other, hpattern, hother, hregex, of_decide_eq_true hfields,
    of_decide_eq_true hfields'⟩

end CompiledPattern

end LogPattern
