import LogPattern.Proofs.Pattern.SchemaOrder
import LogPattern.Proofs.Registry.Views
import Mathlib.Data.List.Forall2

/-!
# Labels of tokens

Behind the name of its pattern a token may have a field and a hint.  They label what is kept
of a line, and nothing else depends on them: with other labels, in the text and in all the
fragments, a text compiles to the same regular expression, and its schema has the new labels
where it had the old ones.  Only which tokens have a field must stay the same.
-/

namespace LogPattern

/-! ## Labels in a text -/

inductive Labels where
  | none
  | field (name : List Char)
  | fieldAndHint (name hint : List Char)
deriving DecidableEq, Repr

namespace Labels

def text : Labels → List Char
  | .none => []
  | .field name => ':' :: name
  | .fieldAndHint name hint => ':' :: (name ++ ':' :: hint)

def field? : Labels → Option String
  | .none => .none
  | .field name => nonEmptyPart name
  | .fieldAndHint name _ => nonEmptyPart name

def hint? : Labels → Option String
  | .fieldAndHint _ hint => nonEmptyPart hint
  | _ => .none

/-- A field has neither a colon nor a closing brace, and a hint has no closing brace. -/
def Fits : Labels → Prop
  | .none => True
  | .field name => ':' ∉ name ∧ '\x7d' ∉ name
  | .fieldAndHint name hint => ':' ∉ name ∧ '\x7d' ∉ name ∧ '\x7d' ∉ hint

theorem brace_notMem_text {labels : Labels} (h : labels.Fits) : '\x7d' ∉ labels.text := by
  cases labels with
  | none => exact List.not_mem_nil
  | field name => simpa [text] using h.2
  | fieldAndHint name hint => simpa [text] using h.2

end Labels

theorem Token.ofBody_labels {name : List Char} {labels : Labels} (hname : ':' ∉ name)
    (h : labels.Fits) (offset : Nat) :
    Token.ofBody offset (name ++ labels.text) =
      ⟨String.ofList name, labels.field?, labels.hint?, offset,
        String.ofList (opener ++ (name ++ labels.text) ++ ['\x7d'])⟩ := by
  cases labels with
  | none =>
      simp only [Labels.text, List.append_nil, ofBody, splitAtMark_eq_none hname]
      rfl
  | field field =>
      simp only [Labels.text, ofBody, splitAtMark_of_notMem hname, splitAtMark_eq_none h.1]
      rfl
  | fieldAndHint field hint =>
      simp only [Labels.text, ofBody, splitAtMark_of_notMem hname, splitAtMark_of_notMem h.1]
      rfl

theorem exists_labels {body : List Char} (hbody : '\x7d' ∉ body) :
    ∃ (name : List Char) (labels : Labels),
      body = name ++ labels.text ∧ ':' ∉ name ∧ labels.Fits := by
  cases hsplit : splitAtMark [':'] body with
  | none => exact ⟨body, .none, by simp [Labels.text], notMem_of_splitAtMark_eq_none hsplit, trivial⟩
  | some parts =>
      obtain ⟨name, rest⟩ := parts
      have hname := notMem_of_splitAtMark hsplit
      obtain rfl : name ++ [':'] ++ rest = body := splitAtMark_eq_append hsplit
      have hrest : '\x7d' ∉ rest := fun hmem => hbody (List.mem_append_right _ hmem)
      cases hagain : splitAtMark [':'] rest with
      | none =>
          exact ⟨name, .field rest, by simp [Labels.text], hname,
            notMem_of_splitAtMark_eq_none hagain, hrest⟩
      | some parts =>
          obtain ⟨field, hint⟩ := parts
          obtain rfl : field ++ [':'] ++ hint = rest := splitAtMark_eq_append hagain
          simp only [List.mem_append, not_or] at hrest
          exact ⟨name, .fieldAndHint field hint, by simp [Labels.text], hname,
            notMem_of_splitAtMark hagain, hrest.1.1, hrest.2⟩

/--
The second text is the first one with other labels in its tokens.  Where there was a field
there is one again.
-/
inductive Relabeled : (text other : List Char) → Prop
  | plain {text : List Char} (h : splitAtToken text = none) : Relabeled text text
  | token {text other front name back back' : List Char} {labels labels' : Labels}
      (htext : splitAtToken text = some (front, name ++ labels.text, back))
      (hother : other = front ++ (Token.opener ++ (name ++ labels'.text) ++ ['\x7d']) ++ back')
      (hname : ':' ∉ name) (hlabels : labels.Fits) (hlabels' : labels'.Fits)
      (hfield : labels'.field?.isSome = labels.field?.isSome)
      (hback : Relabeled back back') : Relabeled text other

def RelabeledLookup (lookup lookup' : Lookup) : Prop :=
  ∀ name, Option.Rel (fun fragment other : String => Relabeled fragment.toList other.toList)
    (lookup name) (lookup' name)

theorem RelabeledLookup.fragments {lookup lookup' : Lookup} (h : RelabeledLookup lookup lookup')
    {name fragment other : String} (hfragment : lookup name = some fragment)
    (hother : lookup' name = some other) : Relabeled fragment.toList other.toList := by
  have hname := h name
  rw [hfragment, hother] at hname
  cases hname with
  | some hrelabeled => exact hrelabeled

/-- The tokens refer to the same pattern, and both or none of them have a field. -/
structure Token.Relabeled (token other : Token) : Prop where
  name : other.name = token.name
  field : other.field.isSome = token.field.isSome

inductive Segment.Relabeled : Segment → Segment → Prop
  | literal (text : String) : Relabeled (.literal text) (.literal text)
  | token {token other : Token} (h : token.Relabeled other) :
      Relabeled (.token token) (.token other)

/-- The forests have the same shape, with tokens that differ in their labels. -/
inductive TokenForest.Relabeled : TokenForest → TokenForest → Prop
  | nil : Relabeled .nil .nil
  | cons {token token' : Token} {below below' beside beside' : TokenForest}
      (htoken : token.Relabeled token') (hbelow : Relabeled below below')
      (hbeside : Relabeled beside beside') :
      Relabeled (.cons token below beside) (.cons token' below' beside')

/-! ## Dividing a text with other labels -/

namespace Relabeled

variable {text other : List Char}

theorem refl (text : List Char) : Relabeled text text := by
  induction hlength : text.length using Nat.strongRecOn generalizing text with
  | ind length ih =>
      cases hsplit : splitAtToken text with
      | none => exact .plain hsplit
      | some parts =>
          obtain ⟨front, body, back⟩ := parts
          have hshorter : back.length < length := hlength ▸ length_lt_of_splitAtToken hsplit
          obtain ⟨name, labels, rfl, hname, hlabels⟩ :=
            exists_labels (brace_notMem_of_splitAtToken hsplit)
          exact .token hsplit (splitAtToken_eq_append hsplit).symm hname hlabels hlabels rfl
            (ih _ hshorter back rfl)

theorem eq_nil_iff (h : Relabeled text other) : other = [] ↔ text = [] := by
  cases h with
  | plain => exact Iff.rfl
  | token htext hother =>
      subst hother
      constructor
      · intro hnil
        simp [Token.opener] at hnil
      · rintro rfl
        cases htext

/-- Nothing but labels changes in the segments. -/
theorem segmentsFrom (h : Relabeled text other) (offset offset' : Nat) :
    List.Forall₂ Segment.Relabeled (segmentsFrom [] offset text)
      (LogPattern.segmentsFrom [] offset' other) := by
  have hliteral (front : List Char) :
      List.Forall₂ Segment.Relabeled (literalSegment front) (literalSegment front) := by
    unfold literalSegment
    split
    · exact .nil
    · exact .cons (.literal _) .nil
  induction h generalizing offset offset' with
  | plain h =>
      rw [segmentsFrom_of_none h, segmentsFrom_of_none h]
      exact hliteral _
  | @token text other front name back back' labels labels' htext hother hname hlabels hlabels'
      hfield hback ih =>
      have hbody : '\x7d' ∉ name ++ labels'.text := by
        have hold := brace_notMem_of_splitAtToken htext
        simp only [List.mem_append, not_or] at hold ⊢
        exact ⟨hold.1, Labels.brace_notMem_text hlabels'⟩
      have hsplit : splitAtToken other = some (front, name ++ labels'.text, back') := by
        rw [hother]
        exact splitAtToken_replace htext hbody back'
      rw [segmentsFrom_eq_cons htext, segmentsFrom_eq_cons hsplit]
      refine List.rel_append (hliteral front) (.cons (.token ⟨?_, ?_⟩) (ih _ _))
      · rw [Token.ofBody_labels hname hlabels, Token.ofBody_labels hname hlabels']
      · rw [Token.ofBody_labels hname hlabels, Token.ofBody_labels hname hlabels']
        exact hfield

end Relabeled

theorem relabeled_segments {text other : String} (h : Relabeled text.toList other.toList) :
    List.Forall₂ Segment.Relabeled (segments text) (segments other) :=
  h.segmentsFrom 0 0

theorem relabeled_tokens {text other : String} (h : Relabeled text.toList other.toList) :
    List.Forall₂ Token.Relabeled (tokens text) (tokens other) := by
  have htoken : ∀ ⦃segment segment'⦄, Segment.Relabeled segment segment' →
      Option.Rel Token.Relabeled segment.token? segment'.token? := by
    intro segment segment' hsegment
    cases hsegment with
    | literal text => exact .none
    | token h => exact .some h
  exact List.rel_filterMap htoken (relabeled_segments h)

/-- What unfolds with other labels has the same shape. -/
theorem Unfolds.relabeled {lookup lookup' : Lookup} {row row' : List Token}
    {forest forest' : TokenForest} (hlookup : RelabeledLookup lookup lookup')
    (h : Unfolds lookup row forest) (h' : Unfolds lookup' row' forest')
    (hrow : List.Forall₂ Token.Relabeled row row') : forest.Relabeled forest' := by
  induction h generalizing row' forest' with
  | nil =>
      cases hrow
      cases h'
      exact .nil
  | @cons token fragment row below beside hfragment _ _ ihBelow ihBeside =>
      cases hrow with
      | cons htoken hrest =>
          cases h' with
          | cons hfragment' hbelow' hbeside' =>
              have hfragments := hlookup.fragments hfragment (htoken.name ▸ hfragment')
              exact .cons htoken (ihBelow hbelow' (relabeled_tokens hfragments))
                (ihBeside hbeside' hrest)

end LogPattern
