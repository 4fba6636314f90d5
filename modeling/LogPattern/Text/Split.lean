/-!
# Dividing text at a mark
-/

namespace LogPattern

/--
What stands before and after the first place where `mark` begins; `before` holds
the characters passed so far, last first.
-/
def splitAtMarkFrom (mark before : List Char) : List Char → Option (List Char × List Char)
  | [] => none
  | c :: rest =>
      if mark.isPrefixOf (c :: rest) then
        some (before.reverse, (c :: rest).drop mark.length)
      else splitAtMarkFrom mark (c :: before) rest

def splitAtMark (mark text : List Char) : Option (List Char × List Char) :=
  splitAtMarkFrom mark [] text

theorem splitAtMarkFrom_eq_append {mark before text front back : List Char}
    (h : splitAtMarkFrom mark before text = some (front, back)) :
    front ++ mark ++ back = before.reverse ++ text := by
  induction text generalizing before with
  | nil => simp [splitAtMarkFrom] at h
  | cons c rest ih =>
      rw [splitAtMarkFrom] at h
      split at h
      · next hp =>
          obtain ⟨tail, ht⟩ := List.isPrefixOf_iff_prefix.1 hp
          cases h
          rw [← ht]
          simp
      · have := ih h
        simpa using this

theorem splitAtMark_eq_append {mark text front back : List Char}
    (h : splitAtMark mark text = some (front, back)) : front ++ mark ++ back = text := by
  simpa using splitAtMarkFrom_eq_append h

end LogPattern
