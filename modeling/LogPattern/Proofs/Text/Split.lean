import Mathlib.Data.String.Basic

/-!
# Dividing text at every mark

The parts of a text between the places of one character, as lists of characters.
-/

namespace LogPattern

section Marks

open String

theorem splitOnAux_singleton (mark : Char) (front part rest : List Char) (done : List String) :
    String.splitOnAux (ofList (front ++ part ++ rest)) (singleton mark) ⟨utf8Len front⟩
        ⟨utf8Len front + utf8Len part⟩ 0 done =
      done.reverse ++ (List.splitOnPPrepend (· == mark) rest part.reverse).map ofList := by
  induction rest generalizing front part done with
  | nil =>
      have hend : Pos.Raw.atEnd (ofList (front ++ part ++ []))
          ⟨utf8Len front + utf8Len part⟩ = true := by
        simp [atEnd_iff, -ofList_append]
      rw [String.splitOnAux, if_pos hend, extract_of_valid]
      simp
  | cons c rest ih =>
      have hend : ¬ Pos.Raw.atEnd (ofList (front ++ part ++ c :: rest))
          ⟨utf8Len front + utf8Len part⟩ = true := by
        have hpos := c.utf8Size_pos
        simp only [atEnd_iff, rawEndPos_ofList, utf8Len_append, utf8Len_cons, Pos.Raw.mk_le_mk]
        omega
      have hget := get_of_valid (front ++ part) (c :: rest)
      have hnext := next_of_valid (front ++ part) c rest
      have hextract := extract_of_valid front part (c :: rest)
      rw [utf8Len_append] at hget hnext
      have hmark : Pos.Raw.get (singleton mark) 0 = mark := get_of_valid [] [mark]
      have hbehind : Pos.Raw.next (singleton mark) 0 = ⟨mark.utf8Size⟩ := by
        simpa using next_of_valid [] mark []
      have hmarkEnd : Pos.Raw.atEnd (singleton mark) ⟨mark.utf8Size⟩ = true := by
        simp [atEnd_iff, Pos.Raw.le_iff]
      have hstay : Pos.Raw.unoffsetBy ⟨utf8Len front + utf8Len part⟩ 0 =
          ⟨utf8Len front + utf8Len part⟩ := rfl
      rw [String.splitOnAux, if_neg hend, hget, hnext, hmark, hbehind, hstay, hnext,
        List.headD_cons]
      simp only [hmarkEnd, if_true]
      by_cases hc : c = mark
      · subst hc
        have hback : Pos.Raw.unoffsetBy ⟨utf8Len front + utf8Len part + c.utf8Size⟩
            ⟨c.utf8Size⟩ = ⟨utf8Len front + utf8Len part⟩ := by
          simp [Pos.Raw.unoffsetBy]
        have hrest := ih (front ++ part ++ [c]) [] (ofList part :: done)
        rw [List.splitOnPPrepend_cons_pos (by simp), hback, hextract, if_pos (by simp)]
        simpa [-ofList_append, Nat.add_assoc] using hrest
      · have hrest := ih front (part ++ [c]) done
        have hne : (c == mark) = false := by simpa using hc
        rw [List.splitOnPPrepend_cons_neg (p := (· == mark)) hne, hne]
        simpa [-ofList_append, Nat.add_assoc] using hrest

end Marks

theorem splitOn_singleton (text : String) (mark : Char) :
    text.splitOn (String.singleton mark) = (text.toList.splitOn mark).map String.ofList := by
  have hsplit := splitOnAux_singleton mark [] [] text.toList []
  have hmark : (String.singleton mark == "") = false := by simp
  rw [String.splitOn, hmark]
  simpa [List.splitOn_eq_splitOnP] using hsplit

end LogPattern
