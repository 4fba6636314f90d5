import LogPattern.Pattern.Literal
import LogPattern.Proofs.Bytewise.Slice

/-!
# Literal text by offsets

The signs at the ends of a literal are cut off from the text that is escaped.  They are ASCII
characters and stand where they are looked for, so the cuts can be made.
-/

namespace LogPattern.Bytewise

open String

def dropEnd? (text : String) (count : Nat) : Option String :=
  if count ≤ text.utf8ByteSize then sliceTo? text (text.utf8ByteSize - count) else none

def endingOf (text : String) : Ending :=
  if ['\\', '$'].isSuffixOf text.toList then .dollar
  else if text.toList.getLast? = some '$' then .anchor
  else .plain

def cutEnding? (text : String) : Option (String × Ending) :=
  match endingOf text with
  | .dollar => (dropEnd? text 2).map (·, .dollar)
  | .anchor => (dropEnd? text 1).map (·, .anchor)
  | .plain => some (text, .plain)

def anchoredLiteral? (literal : String) (first last : Bool) : Option AnchoredLiteral :=
  let startAnchor := first && literal.toList.head? = some '^'
  (if startAnchor then sliceFrom? literal 1 else some literal).bind fun text =>
    (if last then cutEnding? text else some (text, .plain)).map fun (body, ending) =>
      ⟨startAnchor, body.toList, ending⟩

theorem dropEnd?_of_toList {text : String} {front back : List Char}
    (h : text.toList = front ++ back) : dropEnd? text (byteCount back) = some (ofList front) := by
  have hsize : text.utf8ByteSize = byteCount front + byteCount back := by
    rw [utf8ByteSize_of_toList h, byteCount_append]
  rw [dropEnd?, hsize, if_pos (Nat.le_add_left _ _), Nat.add_sub_cancel]
  exact sliceTo?_of_toList h

theorem endingOf_eq (text : String) :
    endingOf text =
      if ['$', '\\'].isPrefixOf text.toList.reverse then .dollar
      else if text.toList.reverse.head? = some '$' then .anchor
      else .plain := by
  rw [List.head?_reverse]
  rfl

theorem cutEnding?_eq (text : String) :
    cutEnding? text = some ((splitEnding text.toList).map ofList id) := by
  have hending := endingOf_eq text
  unfold splitEnding
  split
  · next body hreverse =>
      have htext : text.toList = body.reverse ++ ['\\', '$'] := by
        rw [← List.reverse_inj, hreverse]
        simp
      rw [hreverse, if_pos (by simp)] at hending
      rw [cutEnding?, hending]
      exact congrArg (Option.map _) (dropEnd?_of_toList htext)
  · next body hother hreverse =>
      have htext : text.toList = body.reverse ++ ['$'] := by
        rw [← List.reverse_inj, hreverse]
        simp
      have hnot : ¬ ['$', '\\'] <+: '$' :: body := by
        rw [List.cons_prefix_cons]
        rintro ⟨-, rest, rfl⟩
        exact hother rest rfl
      rw [hreverse, if_neg (mt List.isPrefixOf_iff_prefix.1 hnot), List.head?_cons,
        if_pos rfl] at hending
      rw [cutEnding?, hending]
      exact congrArg (Option.map _) (dropEnd?_of_toList htext)
  · next hdollar hanchor =>
      have hhead : text.toList.reverse.head? ≠ some '$' := by
        intro hhead
        obtain ⟨body, hbody⟩ := List.head?_eq_some_iff.1 hhead
        exact hanchor body hbody
      have hnot : ¬ ['$', '\\'] <+: text.toList.reverse := by
        rintro ⟨rest, hrest⟩
        exact hdollar rest hrest.symm
      rw [if_neg (mt List.isPrefixOf_iff_prefix.1 hnot), if_neg hhead] at hending
      simp [cutEnding?, hending]

theorem exists_cutStart (literal : String) (first last : Bool) :
    ∃ text : String,
      (if first && literal.toList.head? = some '^' then sliceFrom? literal 1 else some literal) =
        some text ∧
      AnchoredLiteral.ofText literal.toList first last =
        let (body, ending) := if last then splitEnding text.toList else (text.toList, .plain)
        ⟨first && literal.toList.head? = some '^', body, ending⟩ := by
  cases hanchor : first && decide (literal.toList.head? = some '^') with
  | true =>
      rw [Bool.and_eq_true, decide_eq_true_eq] at hanchor
      obtain ⟨rfl, hhead⟩ := hanchor
      obtain ⟨rest, hrest⟩ := List.head?_eq_some_iff.1 hhead
      refine ⟨ofList rest, @sliceFrom?_of_toList literal ['^'] rest hrest, ?_⟩
      rw [hrest, toList_ofList]
      rfl
  | false =>
      refine ⟨literal, rfl, ?_⟩
      unfold AnchoredLiteral.ofText
      split
      next heq =>
        split at heq
        · next hchars =>
            rw [hchars] at hanchor
            cases hanchor
        · cases heq
          rfl

/-- The anchors of every literal can be cut off. -/
theorem anchoredLiteral?_eq (literal : String) (first last : Bool) :
    anchoredLiteral? literal first last =
      some (AnchoredLiteral.ofText literal.toList first last) := by
  obtain ⟨text, hcut, hliteral⟩ := exists_cutStart literal first last
  rw [anchoredLiteral?, hliteral, hcut, Option.bind_some]
  cases last with
  | false => rfl
  | true =>
      rw [if_pos rfl, if_pos rfl, cutEnding?_eq]
      simp

end LogPattern.Bytewise
