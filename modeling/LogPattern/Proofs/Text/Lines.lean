import LogPattern.CodePoint.WhiteSpace
import Mathlib.Data.List.TakeDrop
import Mathlib.Data.List.TakeWhile

/-!
# Trimmed text and lines

Trimming takes away the white space around a text and nothing else.  A text is its lines with
their ends, and says which lines it has.
-/

namespace LogPattern

/-! ## Trimming -/

def IsGap (text : List Char) : Prop := ∀ c ∈ text, isWhite c = true

structure IsTrimmed (text : List Char) : Prop where
  head : ∀ c ∈ text.head?, isWhite c = false
  last : ∀ c ∈ text.getLast?, isWhite c = false

theorem trimLeft_append {front : List Char} (h : IsGap front) (text : List Char) :
    trimLeft (front ++ text) = trimLeft text :=
  List.dropWhile_append_of_pos h

theorem trimLeft_eq_self {text : List Char} (h : ∀ c ∈ text.head?, isWhite c = false) :
    trimLeft text = text := by
  cases text with
  | nil => rfl
  | cons c text => rw [trimLeft, List.dropWhile_cons_of_neg (by simp [h c rfl])]

theorem exists_gap_trimLeft (text : List Char) :
    ∃ front, IsGap front ∧ text = front ++ trimLeft text ∧
      ∀ c ∈ (trimLeft text).head?, isWhite c = false := by
  refine ⟨text.takeWhile isWhite, ?_, List.takeWhile_append_dropWhile.symm, fun c hc => ?_⟩
  · exact List.all_eq_true.1 List.all_takeWhile
  · have hnot := List.head?_dropWhile_not isWhite text
    rw [trimLeft] at hc
    rw [hc] at hnot
    exact hnot

theorem trim_eq {front text back : List Char} (hfront : IsGap front) (htext : IsTrimmed text)
    (hback : IsGap back) : trim (front ++ text ++ back) = text := by
  have hreversed : IsGap back.reverse := fun c hc => hback c (List.mem_reverse.1 hc)
  rw [trim, List.append_assoc, trimLeft_append hfront]
  cases text with
  | nil =>
      have hgone : trimLeft back = [] := List.dropWhile_eq_nil_iff.2 hback
      rw [List.nil_append, hgone]
      rfl
  | cons c text =>
      have hhead : ∀ d ∈ (c :: text ++ back).head?, isWhite d = false := htext.head
      have hlast : ∀ d ∈ (c :: text).reverse.head?, isWhite d = false := by
        rw [List.head?_reverse]
        exact htext.last
      rw [trimLeft_eq_self hhead, trimRight, List.reverse_append, trimLeft_append hreversed,
        trimLeft_eq_self hlast, List.reverse_reverse]

theorem exists_trimmed (line : List Char) :
    ∃ front text back, line = front ++ text ++ back ∧
      IsGap front ∧ IsTrimmed text ∧ IsGap back := by
  obtain ⟨front, hfront, hline, hhead⟩ := exists_gap_trimLeft line
  obtain ⟨back, hback, hrest, hlast⟩ := exists_gap_trimLeft (trimLeft line).reverse
  generalize trimLeft (trimLeft line).reverse = reversed at hrest hlast
  have hparts : trimLeft line = reversed.reverse ++ back.reverse := by
    rw [← List.reverse_append, ← hrest, List.reverse_reverse]
  rw [hparts] at hline hhead
  refine ⟨front, reversed.reverse, back.reverse, by rw [hline, List.append_assoc], hfront, ?_,
    fun c hc => hback c (List.mem_reverse.1 hc)⟩
  constructor
  case head =>
    intro c hc
    refine hhead c ?_
    cases hreversed : reversed.reverse with
    | nil => simp [hreversed] at hc
    | cons d text => simpa [hreversed] using hc
  case last => simpa using hlast

theorem exists_trimmed_of_black {c : Char} (hc : isWhite c = false) (rest : List Char) :
    ∃ text back, rest = text ++ back ∧ IsTrimmed (c :: text) ∧ IsGap back := by
  obtain ⟨front, text, back, hline, hfront, htext, hback⟩ := exists_trimmed (c :: rest)
  have hnot : ∀ gap, IsGap gap → c ∉ gap := by
    intro gap hgap hmem
    rw [hgap c hmem] at hc
    cases hc
  cases front with
  | cons d front =>
      obtain ⟨rfl, -⟩ : c = d ∧ rest = front ++ text ++ back := by simpa using hline
      exact absurd List.mem_cons_self (hnot _ hfront)
  | nil =>
      cases text with
      | nil =>
          obtain rfl : c :: rest = back := hline
          exact absurd List.mem_cons_self (hnot _ hback)
      | cons d text =>
          obtain ⟨rfl, rfl⟩ : c = d ∧ rest = text ++ back := by simpa using hline
          exact ⟨text, back, rfl, htext, hback⟩

/-! ## The first white space -/

theorem splitAtWhite_append {word : List Char} (hword : ∀ c ∈ word, isWhite c = false) {c : Char}
    (hc : isWhite c = true) (rest : List Char) :
    splitAtWhite (word ++ c :: rest) = some (word, rest) := by
  have hall : ∀ d ∈ word, (!isWhite d) = true := by simpa using hword
  simp [splitAtWhite, List.span_eq_takeWhile_dropWhile, List.takeWhile_append_of_pos hall,
    List.dropWhile_append_of_pos hall, hc]

theorem splitAtWhite_eq_none {word : List Char} (hword : ∀ c ∈ word, isWhite c = false) :
    splitAtWhite word = none := by
  have hall : word.dropWhile (fun c => !isWhite c) = [] := by simpa using hword
  simp [splitAtWhite, List.span_eq_takeWhile_dropWhile, hall]

/-! ## Lines -/

/--
The lines of a text.  A line ends at a line feed, to which a carriage return in front of it
belongs; the last line may do without.
-/
inductive HasLines : List Char → List (List Char) → Prop
  | nil : HasLines [] []
  | last {line : List Char} (hne : line ≠ []) (hline : '\n' ∉ line) : HasLines line [line]
  | feed {line rest : List Char} {lines : List (List Char)} (hline : '\n' ∉ line)
      (hend : line.getLast? ≠ some '\r') (hrest : HasLines rest lines) :
      HasLines (line ++ '\n' :: rest) (line :: lines)
  | returnFeed {line rest : List Char} {lines : List (List Char)} (hline : '\n' ∉ line)
      (hrest : HasLines rest lines) : HasLines (line ++ '\r' :: '\n' :: rest) (line :: lines)

theorem linesFrom_eq_append (done : List (List Char)) (line text : List Char) :
    linesFrom done line text = done.reverse ++ linesFrom [] line text := by
  induction text generalizing done line with
  | nil =>
      rw [linesFrom, linesFrom]
      split <;> simp
  | cons c text ih =>
      by_cases hc : c = '\n'
      · subst hc
        rw [linesFrom, linesFrom, ih, ih [_]]
        simp
      · rw [linesFrom.eq_3 _ _ _ _ hc, linesFrom.eq_3 _ _ _ _ hc, ih]

theorem linesFrom_append {front : List Char} (hfront : '\n' ∉ front) (done : List (List Char))
    (line rest : List Char) :
    linesFrom done line (front ++ rest) = linesFrom done (front.reverse ++ line) rest := by
  induction front generalizing line with
  | nil => rfl
  | cons c front ih =>
      have hc : c ≠ '\n' := (List.ne_of_not_mem_cons hfront).symm
      rw [List.cons_append, linesFrom.eq_3 _ _ _ _ hc, ih (List.not_mem_of_not_mem_cons hfront)]
      simp

theorem linesFrom_feed {front : List Char} (hfront : '\n' ∉ front) (rest : List Char) :
    linesFrom [] [] (front ++ '\n' :: rest) =
      (dropCarriageReturn front.reverse).reverse :: linesFrom [] [] rest := by
  rw [linesFrom_append hfront, List.append_nil, linesFrom, linesFrom_eq_append]
  rfl

theorem linesFrom_last {front : List Char} (hfront : '\n' ∉ front) (hne : front ≠ []) :
    linesFrom [] [] front = [front] := by
  have hlast := linesFrom_append hfront [] [] []
  rw [List.append_nil, List.append_nil] at hlast
  rw [hlast, linesFrom]
  simp [hne]

theorem dropCarriageReturn_eq_self {line : List Char} (h : line.getLast? ≠ some '\r') :
    dropCarriageReturn line.reverse = line.reverse := by
  unfold dropCarriageReturn
  split
  · next rest hline =>
      have hlast : line.getLast? = some '\r' := by rw [← List.head?_reverse, hline]; rfl
      exact absurd hlast h
  · rfl

theorem HasLines.linesFrom_eq {text : List Char} {lines : List (List Char)}
    (h : HasLines text lines) : linesFrom [] [] text = lines := by
  induction h with
  | nil => rfl
  | last hne hline => exact linesFrom_last hline hne
  | feed hline hend hrest ih =>
      rw [linesFrom_feed hline, dropCarriageReturn_eq_self hend, List.reverse_reverse, ih]
  | @returnFeed line rest lines hline hrest ih =>
      have hwhole : '\n' ∉ line ++ ['\r'] := by simpa using hline
      have hfeed := linesFrom_feed hwhole rest
      rw [List.append_assoc] at hfeed
      refine hfeed.trans ?_
      rw [ih, List.reverse_append]
      exact congrArg (· :: lines) (List.reverse_reverse line)

theorem hasLines_linesFrom (text : List Char) : HasLines text (linesFrom [] [] text) := by
  induction hlength : text.length using Nat.strongRecOn generalizing text with
  | ind length ih =>
      by_cases hfeed : '\n' ∈ text
      · obtain ⟨line, rest, rfl, hline⟩ := List.eq_append_cons_of_mem hfeed
        have hshorter : rest.length < length := by
          rw [← hlength, List.length_append, List.length_cons]
          omega
        have hrest := ih rest.length hshorter rest rfl
        rw [linesFrom_feed hline]
        by_cases hend : line.getLast? = some '\r'
        · obtain ⟨front, rfl⟩ := List.getLast?_eq_some_iff.1 hend
          have hfront : '\n' ∉ front := fun hmem => hline (List.mem_append_left _ hmem)
          rw [List.append_assoc]
          simpa [dropCarriageReturn] using HasLines.returnFeed hfront hrest
        · rw [dropCarriageReturn_eq_self hend, List.reverse_reverse]
          exact .feed hline hend hrest
      · by_cases hne : text = []
        · rw [hne]
          exact .nil
        · rw [linesFrom_last hfeed hne]
          exact .last hne hfeed

theorem hasLines_iff {text : String} {lines : List (List Char)} :
    HasLines text.toList lines ↔ linesOf text = lines.map String.ofList := by
  constructor
  · intro h
    rw [linesOf, h.linesFrom_eq]
  · intro h
    have hlines := (List.map_inj_right fun _ _ => String.ofList_injective).1 h
    exact hlines ▸ hasLines_linesFrom text.toList

theorem HasLines.feed_notMem {text : List Char} {lines : List (List Char)}
    (h : HasLines text lines) : ∀ line ∈ lines, '\n' ∉ line := by
  induction h with
  | nil => simp
  | last _ hline => simpa using hline
  | feed hline _ _ ih => exact List.forall_mem_cons.2 ⟨hline, ih⟩
  | returnFeed hline _ ih => exact List.forall_mem_cons.2 ⟨hline, ih⟩

/-- Lines that do not end in a carriage return are the lines of what they are joined to. -/
theorem hasLines_intercalate {lines : List (List Char)} (hne : ∀ line ∈ lines, line ≠ [])
    (hfeed : ∀ line ∈ lines, '\n' ∉ line)
    (hend : ∀ line ∈ lines, line.getLast? ≠ some '\r') :
    HasLines (['\n'].intercalate lines) lines := by
  induction lines with
  | nil => exact .nil
  | cons line lines ih =>
      rw [List.forall_mem_cons] at hne hfeed hend
      cases lines with
      | nil => simpa using HasLines.last hne.1 hfeed.1
      | cons next lines =>
          rw [List.intercalate_cons_cons]
          simpa using HasLines.feed hfeed.1 hend.1 (ih hne.2 hfeed.2 hend.2)

end LogPattern
