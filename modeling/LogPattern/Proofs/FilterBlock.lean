import LogPattern.CodePoint.WhiteSpace
import LogPattern.FilterBlock
import LogPattern.Proofs.Pattern.Tokenize

/-!
# Filter blocks can be read back

The pipeline reads the value behind the name of the field: a string in double quotes, or strings
in brackets with commas between them.  In a string a backslash makes the next character literal.
Whatever characters the patterns have, it finds them again, and the block goes on behind them as
it should.
-/

namespace LogPattern.FilterBlock

/-! ## Reading -/

def readStringBody : List Char → Option (List Char × List Char)
  | [] => none
  | '"' :: rest => some ([], rest)
  | ['\\'] => none
  | '\\' :: c :: rest => (readStringBody rest).map fun (pattern, back) => (c :: pattern, back)
  | c :: rest => (readStringBody rest).map fun (pattern, back) => (c :: pattern, back)

def readString : List Char → Option (List Char × List Char)
  | '"' :: rest => readStringBody rest
  | _ => none

theorem length_lt_of_readStringBody {text pattern back : List Char}
    (h : readStringBody text = some (pattern, back)) : back.length < text.length := by
  induction text using readStringBody.induct generalizing pattern with
  | case1 => cases h
  | case2 rest =>
      cases h
      exact Nat.lt_succ_self _
  | case3 => cases h
  | case4 c rest ih =>
      rw [readStringBody, Option.map_eq_some_iff] at h
      obtain ⟨found, hfound, hparts⟩ := h
      cases hparts
      have hshort := ih hfound
      simp only [List.length_cons]
      omega
  | case5 c rest hquote hlone hescape ih =>
      rw [readStringBody, Option.map_eq_some_iff] at h
      · obtain ⟨found, hfound, hparts⟩ := h
        cases hparts
        have hshort := ih hfound
        simp only [List.length_cons]
        omega
      all_goals assumption

theorem length_lt_of_readString {text pattern back : List Char}
    (h : readString text = some (pattern, back)) : back.length < text.length := by
  unfold readString at h
  split at h
  · have hshort := length_lt_of_readStringBody h
    simp only [List.length_cons]
    omega
  · cases h

/-- Read strings with commas between them up to the closing bracket, one at least. -/
def readItems (text : List Char) : Option (List (List Char) × List Char) :=
  match _hitem : readString (trimLeft text) with
  | none => none
  | some (pattern, back) =>
      match _hnext : trimLeft back with
      | ',' :: rest => (readItems rest).map fun (patterns, back) => (pattern :: patterns, back)
      | ']' :: rest => some ([pattern], rest)
      | _ => none
termination_by text.length
decreasing_by
  have hshort := length_lt_of_readString _hitem
  have hfront := (List.dropWhile_suffix (l := text) isWhite).length_le
  have hback := (List.dropWhile_suffix (l := back) isWhite).length_le
  simp only [trimLeft] at hshort _hnext
  rw [_hnext, List.length_cons] at hback
  omega

def readValue : List Char → Option (List (List Char) × List Char)
  | '[' :: rest =>
      match trimLeft rest with
      | ']' :: back => some ([], back)
      | _ => readItems rest
  | text => (readString text).map fun (pattern, back) => ([pattern], back)

def fieldMark : List Char := "\"message\" => ".toList

/-- What stands before the field, the patterns that it has, and what stands behind its value. -/
def read? (block : String) : Option (String × List String × String) :=
  match splitAtMark fieldMark block.toList with
  | none => none
  | some (front, text) =>
      (readValue text).map fun (patterns, back) =>
        (String.ofList front, patterns.map String.ofList, String.ofList back)

/-! ## Strings -/

theorem readStringBody_quoteChar (c : Char) (text : List Char) :
    readStringBody (quoteChar c ++ text) =
      (readStringBody text).map fun (pattern, back) => (c :: pattern, back) := by
  by_cases hescape : c = '\\'
  · subst hescape
    rfl
  · by_cases hquote : c = '"'
    · subst hquote
      rfl
    · have hplain : quoteChar c = [c] := by simp [quoteChar, hescape, hquote]
      rw [hplain, List.singleton_append, readStringBody]
      · exact hquote
      · intro hlone
        exact absurd hlone hescape
      · intro next rest hlone
        exact absurd hlone hescape

theorem readStringBody_flatMap (pattern back : List Char) :
    readStringBody (pattern.flatMap quoteChar ++ '"' :: back) = some (pattern, back) := by
  induction pattern with
  | nil => rfl
  | cons c pattern ih =>
      rw [List.flatMap_cons, List.append_assoc, readStringBody_quoteChar, ih]
      rfl

/-- A pattern cannot end its string, whatever stands behind it. -/
theorem readString_quote (pattern back : List Char) :
    readString (quote pattern ++ back) = some (pattern, back) := by
  have htext : quote pattern ++ back = '"' :: (pattern.flatMap quoteChar ++ '"' :: back) := by
    simp [quote]
  rw [htext, readString, readStringBody_flatMap]

/-! ## Values -/

theorem readItems_last {text pattern back rest : List Char}
    (hitem : readString (trimLeft text) = some (pattern, back))
    (hnext : trimLeft back = ']' :: rest) : readItems text = some ([pattern], rest) := by
  rw [readItems, hitem]
  dsimp only
  rw [hnext]
  rfl

theorem readItems_next {text pattern back rest : List Char}
    (hitem : readString (trimLeft text) = some (pattern, back))
    (hnext : trimLeft back = ',' :: rest) :
    readItems text =
      (readItems rest).map fun (patterns, back) => (pattern :: patterns, back) := by
  rw [readItems, hitem]
  dsimp only
  rw [hnext]
  rfl

theorem readItems_blank (text : List Char) : readItems (' ' :: text) = readItems text := by
  have hblank : trimLeft (' ' :: text) = trimLeft text := rfl
  rw [readItems, readItems, hblank]

theorem readItems_intercalate (first : List Char) (others : List (List Char)) (back : List Char) :
    readItems ([',', ' '].intercalate ((first :: others).map quote) ++ ']' :: back) =
      some (first :: others, back) := by
  induction others generalizing first with
  | nil =>
      have htext : [',', ' '].intercalate ([first].map quote) ++ ']' :: back =
          quote first ++ ']' :: back := by
        simp
      rw [htext]
      exact readItems_last (readString_quote first _) rfl
  | cons second others ih =>
      have htext : [',', ' '].intercalate ((first :: second :: others).map quote) ++ ']' :: back =
          quote first ++ ',' :: ' ' ::
            ([',', ' '].intercalate ((second :: others).map quote) ++ ']' :: back) := by
        simp
      rw [htext, readItems_next (readString_quote first _) rfl, readItems_blank, ih]
      rfl

/-- A value is read to its end, whatever stands behind it. -/
theorem readValue_value (patterns : List (List Char)) (back : List Char) :
    readValue (value patterns ++ back) = some (patterns, back) := by
  match patterns with
  | [] => rfl
  | [pattern] =>
      show (readString (quote pattern ++ back)).map _ = _
      rw [readString_quote]
      rfl
  | first :: second :: others =>
      have htext : value (first :: second :: others) ++ back =
          '[' :: ([',', ' '].intercalate ((first :: second :: others).map quote) ++
            ']' :: back) := by
        simp [value]
      have hfirst : [',', ' '].intercalate ((first :: second :: others).map quote) ++ ']' :: back =
          '"' :: (first.flatMap quoteChar ++ '"' :: ([',', ' '] ++
            ([',', ' '].intercalate ((second :: others).map quote) ++ ']' :: back))) := by
        simp [quote]
      rw [htext, ← readItems_intercalate first (second :: others) back, hfirst]
      rfl

/-! ## Blocks -/

theorem ofPatterns_singleton (pattern : String) : ofPatterns [pattern] = ofPattern pattern := rfl

def heading : String := "filter \x7b\n  grok \x7b\n    match => \x7b "

/-- The name of the field does not occur before its place. -/
theorem splitAtMark_opening (text : List Char) :
    splitAtMark fieldMark (opening ++ text) = some (heading.toList, text) := by
  have hmark : fieldMark ≠ [] := by decide
  have hfirst : splitAtMark fieldMark opening = some (heading.toList, []) := by decide
  have hopening : heading.toList ++ fieldMark = opening := by decide
  rw [← hopening]
  exact splitAtMark_replace hmark hfirst text

theorem read?_render (patterns : List String) :
    read? (render (value (patterns.map String.toList))) =
      some (heading, patterns, String.ofList closing) := by
  have hvalue := readValue_value (patterns.map String.toList) closing
  rw [read?, render, String.toList_ofList, List.append_assoc, splitAtMark_opening]
  simp only [hvalue, Option.map_some, List.map_map, String.ofList_toList]
  simp [Function.comp_def]

theorem ofPatterns_injective : Function.Injective ofPatterns := by
  intro patterns others hsame
  have hread : some (heading, patterns, String.ofList closing) =
      some (heading, others, String.ofList closing) := by
    rw [← read?_render, ← read?_render others]
    exact congrArg read? hsame
  simpa using hread

/--
A reader of blocks finds the patterns in order, and around them the same text whatever they
are; it reads the value to its end and no further.  So no two lists of patterns have the same
block, and no two patterns either: a lone pattern stands in its list's block as in its own.
-/
theorem reads_back :
    (∀ patterns : List String,
      read? (ofPatterns patterns) =
        some ("filter \x7b\n  grok \x7b\n    match => \x7b ", patterns, " \x7d\n  \x7d\n\x7d")) ∧
      (∀ (patterns : List (List Char)) (back : List Char),
        readValue (value patterns ++ back) = some (patterns, back)) ∧
      (∀ pattern : String, ofPatterns [pattern] = ofPattern pattern) ∧
      Function.Injective ofPatterns ∧ Function.Injective ofPattern := by
  refine ⟨read?_render, readValue_value, ofPatterns_singleton, ofPatterns_injective, ?_⟩
  intro pattern other hsame
  rw [← ofPatterns_singleton, ← ofPatterns_singleton] at hsame
  exact List.singleton_inj.1 (ofPatterns_injective hsame)

end LogPattern.FilterBlock
