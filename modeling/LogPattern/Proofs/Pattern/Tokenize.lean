import LogPattern.Pattern.Token

/-!
# Dividing a pattern text

A token at the start of a text is found there, whatever stands behind it, and its body goes
up to the next closing brace.  A text in which no token is found is one literal.
-/

namespace LogPattern

/-! ## Marks -/

theorem splitAtMarkFrom_self {mark : List Char} (hmark : mark ≠ []) (before back : List Char) :
    splitAtMarkFrom mark before (mark ++ back) = some (before.reverse, back) := by
  cases mark with
  | nil => exact absurd rfl hmark
  | cons c rest => simp [splitAtMarkFrom]

theorem splitAtMark_self {mark : List Char} (hmark : mark ≠ []) (back : List Char) :
    splitAtMark mark (mark ++ back) = some ([], back) :=
  splitAtMarkFrom_self hmark [] back

theorem splitAtMarkFrom_replace {mark before text front back : List Char} (hmark : mark ≠ [])
    (h : splitAtMarkFrom mark before text = some (front, back)) (other : List Char) :
    ∃ passed, front = before.reverse ++ passed ∧
      splitAtMarkFrom mark before (passed ++ mark ++ other) = some (front, other) := by
  induction text generalizing before with
  | nil => cases h
  | cons c rest ih =>
      rw [splitAtMarkFrom] at h
      split at h
      · cases h
        exact ⟨[], by simp, splitAtMarkFrom_self hmark before other⟩
      · next hnot =>
          obtain ⟨passed, rfl, hrest⟩ := ih h
          have htext : passed ++ mark ++ back = rest := by
            simpa using splitAtMarkFrom_eq_append h
          refine ⟨c :: passed, by simp, ?_⟩
          -- a mark that begins here would end before the text that is replaced
          have hother : ¬ mark.isPrefixOf (c :: (passed ++ mark ++ other)) = true := by
            intro hbegins
            have hkept (behind : List Char) :
                c :: (passed ++ mark) <+: c :: (passed ++ mark ++ behind) :=
              (List.prefix_cons_inj c).2 (List.prefix_append _ _)
            have hlength : mark.length ≤ (c :: (passed ++ mark)).length := by
              simp only [List.length_cons, List.length_append]
              omega
            have hshort : mark <+: c :: (passed ++ mark) :=
              List.prefix_of_prefix_length_le (List.isPrefixOf_iff_prefix.1 hbegins)
                (hkept other) hlength
            have hbefore : c :: (passed ++ mark) <+: c :: rest := htext ▸ hkept back
            exact hnot (List.isPrefixOf_iff_prefix.2 (hshort.trans hbefore))
          rw [List.cons_append, List.cons_append, splitAtMarkFrom, if_neg hother]
          exact hrest

/-- The first place of a mark is the same, whatever stands behind the mark. -/
theorem splitAtMark_replace {mark text front back : List Char} (hmark : mark ≠ [])
    (h : splitAtMark mark text = some (front, back)) (other : List Char) :
    splitAtMark mark (front ++ mark ++ other) = some (front, other) := by
  obtain ⟨passed, hpassed, hother⟩ := splitAtMarkFrom_replace hmark h other
  obtain rfl : front = passed := by simpa using hpassed
  exact hother

theorem splitAtMarkFrom_of_notMem {c : Char} {front : List Char} (h : c ∉ front)
    (before back : List Char) :
    splitAtMarkFrom [c] before (front ++ c :: back) = some (before.reverse ++ front, back) := by
  induction front generalizing before with
  | nil => simp [splitAtMarkFrom]
  | cons first front ih =>
      have hfirst : c ≠ first := List.ne_of_not_mem_cons h
      have hfront : c ∉ front := List.not_mem_of_not_mem_cons h
      have hother : [c].isPrefixOf (first :: (front ++ c :: back)) = false := by
        simp [List.isPrefixOf, hfirst]
      rw [List.cons_append, splitAtMarkFrom, hother]
      simpa using ih hfront (first :: before)

theorem splitAtMark_of_notMem {c : Char} {front : List Char} (h : c ∉ front) (back : List Char) :
    splitAtMark [c] (front ++ c :: back) = some (front, back) :=
  splitAtMarkFrom_of_notMem h [] back

theorem splitAtMark_eq_none {c : Char} {text : List Char} (h : c ∉ text) :
    splitAtMark [c] text = none := by
  cases hsplit : splitAtMark [c] text with
  | none => rfl
  | some parts =>
      have htext : parts.1 ++ [c] ++ parts.2 = text := splitAtMark_eq_append hsplit
      refine absurd ?_ h
      rw [← htext]
      simp

theorem notMem_of_splitAtMark {c : Char} {text front back : List Char}
    (h : splitAtMark [c] text = some (front, back)) : c ∉ front := by
  have hmem : c ∈ text := by
    rw [← splitAtMark_eq_append h]
    simp
  obtain ⟨first, rest, rfl, hfirst⟩ := List.eq_append_cons_of_mem hmem
  rw [splitAtMark_of_notMem hfirst] at h
  cases h
  exact hfirst

theorem notMem_of_splitAtMark_eq_none {c : Char} {text : List Char}
    (h : splitAtMark [c] text = none) : c ∉ text := by
  intro hmem
  obtain ⟨first, rest, rfl, hfirst⟩ := List.eq_append_cons_of_mem hmem
  rw [splitAtMark_of_notMem hfirst] at h
  cases h

/-! ## Tokens -/

theorem splitAtToken_opener {body : List Char} (hbody : '\x7d' ∉ body) (back : List Char) :
    splitAtToken (Token.opener ++ body ++ '\x7d' :: back) = some ([], body, back) := by
  rw [splitAtToken, List.append_assoc, splitAtMark_self (by decide)]
  simp only [splitAtMark_of_notMem hbody]

theorem brace_notMem_of_splitAtToken {text front body back : List Char}
    (h : splitAtToken text = some (front, body, back)) : '\x7d' ∉ body := by
  unfold splitAtToken at h
  split at h
  · cases h
  · split at h
    · cases h
    · next hclose =>
        cases h
        exact notMem_of_splitAtMark hclose

/-- A token with another body, and another text behind it, is found at the same place. -/
theorem splitAtToken_replace {text front body back other : List Char}
    (h : splitAtToken text = some (front, body, back)) (hother : '\x7d' ∉ other)
    (behind : List Char) :
    splitAtToken (front ++ (Token.opener ++ other ++ ['\x7d']) ++ behind) =
      some (front, other, behind) := by
  have hopener : ∃ rest, splitAtMark Token.opener text = some (front, rest) := by
    unfold splitAtToken at h
    split at h
    · cases h
    · next hopen =>
        split at h
        · cases h
        · cases h
          exact ⟨_, hopen⟩
  obtain ⟨rest, hrest⟩ := hopener
  have htext : front ++ (Token.opener ++ other ++ ['\x7d']) ++ behind =
      front ++ Token.opener ++ (other ++ '\x7d' :: behind) := by
    simp
  rw [splitAtToken, htext, splitAtMark_replace (by decide) hrest]
  simp only [splitAtMark_of_notMem hother]

section Segments

variable {done : List Segment} {offset : Nat} {text front body back : List Char}

theorem segmentsFrom_of_none (h : splitAtToken text = none) :
    segmentsFrom done offset text = done.reverse ++ literalSegment text := by
  rw [segmentsFrom]
  split
  · rfl
  · next hsome => rw [h] at hsome; cases hsome

theorem segmentsFrom_of_some (h : splitAtToken text = some (front, body, back)) :
    segmentsFrom done offset text =
      segmentsFrom (.token (Token.ofBody (offset + byteCount front) body) ::
          (literalSegment front ++ done))
        (offset + byteCount front +
          (Token.ofBody (offset + byteCount front) body).raw.utf8ByteSize) back := by
  rw [segmentsFrom]
  split
  · next hnone => rw [h] at hnone; cases hnone
  · next hsome => rw [h] at hsome; cases hsome; rfl

theorem segmentsFrom_nil : segmentsFrom done offset [] = done.reverse := by
  rw [segmentsFrom_of_none (by rfl), literalSegment]
  simp

theorem segmentsFrom_token (hbody : '\x7d' ∉ body) :
    segmentsFrom done offset (Token.opener ++ body ++ '\x7d' :: back) =
      segmentsFrom (.token (Token.ofBody offset body) :: done)
        (offset + (Token.ofBody offset body).raw.utf8ByteSize) back := by
  rw [segmentsFrom_of_some (splitAtToken_opener hbody back)]
  simp [literalSegment, byteCount]

end Segments

/-- The segments that have been found stay before those that are still to come. -/
theorem segmentsFrom_eq_append (done : List Segment) (offset : Nat) (text : List Char) :
    segmentsFrom done offset text = done.reverse ++ segmentsFrom [] offset text := by
  induction hlength : text.length using Nat.strongRecOn generalizing done offset text with
  | ind length ih =>
      cases hsplit : splitAtToken text with
      | none => rw [segmentsFrom_of_none hsplit, segmentsFrom_of_none hsplit]; rfl
      | some parts =>
          obtain ⟨front, body, back⟩ := parts
          have hshorter : back.length < length := hlength ▸ length_lt_of_splitAtToken hsplit
          have hliteral : (literalSegment front).reverse = literalSegment front := by
            unfold literalSegment
            split <;> rfl
          rw [segmentsFrom_of_some hsplit, segmentsFrom_of_some hsplit, ih _ hshorter _ _ _ rfl,
            ih _ hshorter (_ :: (literalSegment front ++ [])) _ _ rfl]
          simp [hliteral]

theorem segmentsFrom_eq_cons {text front body back : List Char}
    (h : splitAtToken text = some (front, body, back)) (offset : Nat) :
    segmentsFrom [] offset text =
      literalSegment front ++ .token (Token.ofBody (offset + byteCount front) body) ::
        segmentsFrom [] (offset + byteCount front +
          (Token.ofBody (offset + byteCount front) body).raw.utf8ByteSize) back := by
  have hliteral : (literalSegment front).reverse = literalSegment front := by
    unfold literalSegment
    split <;> rfl
  rw [segmentsFrom_of_some h, segmentsFrom_eq_append, List.append_nil, List.reverse_cons, hliteral,
    List.append_assoc]
  rfl

/-! ## Offsets -/

theorem byteCount_eq (text : List Char) : byteCount text = (String.ofList text).utf8ByteSize := by
  suffices hfold : ∀ count, text.foldl (fun count c => count + c.utf8Size) count =
      count + (String.ofList text).utf8ByteSize by
    rw [byteCount, hfold, Nat.zero_add]
  induction text with
  | nil => exact fun _ => rfl
  | cons c rest ih =>
      intro count
      rw [List.foldl_cons, ih, String.ofList_cons, String.utf8ByteSize_append,
        String.utf8ByteSize_singleton, Nat.add_assoc]

/-- The token stands in a text behind as many bytes as its offset says. -/
def Token.StandsIn (text : String) (token : Token) : Prop :=
  ∃ (front : String) (body back : List Char),
    text.toList = front.toList ++ (Token.opener ++ body ++ ['\x7d']) ++ back ∧
      token = Token.ofBody front.utf8ByteSize body

theorem Token.raw_ofBody (offset : Nat) (body : List Char) :
    (Token.ofBody offset body).raw = String.ofList (Token.opener ++ body ++ ['\x7d']) := by
  unfold ofBody
  split
  · rfl
  · split <;> rfl

theorem standsIn_of_mem_segmentsFrom {token : Token} {text : List Char} (before : String)
    (h : .token token ∈ segmentsFrom [] before.utf8ByteSize text) :
    token.StandsIn (before ++ String.ofList text) := by
  induction hlength : text.length using Nat.strongRecOn generalizing before text with
  | ind length ih =>
      cases hsplit : splitAtToken text with
      | none =>
          rw [segmentsFrom_of_none hsplit, literalSegment] at h
          split at h <;> simp at h
      | some parts =>
          obtain ⟨front, body, back⟩ := parts
          have htext := splitAtToken_eq_append hsplit
          have hstart : before.utf8ByteSize + byteCount front =
              (before ++ String.ofList front).utf8ByteSize := by
            rw [byteCount_eq, String.utf8ByteSize_append]
          rw [segmentsFrom_eq_cons hsplit, hstart, ← String.utf8ByteSize_append, List.mem_append,
            List.mem_cons] at h
          rcases h with hliteral | heq | hback
          · rw [literalSegment] at hliteral
            split at hliteral <;> simp at hliteral
          · cases heq
            refine ⟨before ++ String.ofList front, body, back, ?_, rfl⟩
            rw [String.toList_append, String.toList_ofList, ← htext]
            simp
          · have hshorter : back.length < length := hlength ▸ length_lt_of_splitAtToken hsplit
            have hstands := ih _ hshorter _ hback rfl
            rw [Token.raw_ofBody, String.append_assoc, String.append_assoc, ← String.ofList_append,
              ← String.ofList_append, ← List.append_assoc, htext] at hstands
            exact hstands

theorem standsIn_of_mem_segments {token : Token} {text : String}
    (h : .token token ∈ segments text) : token.StandsIn text := by
  have hstands := standsIn_of_mem_segmentsFrom "" h
  rwa [String.empty_append, String.ofList_toList] at hstands

/-- A text without tokens is one literal, unless it is empty. -/
theorem segments_of_no_token {text : String} (h : ∀ token, .token token ∉ segments text) :
    segments text = literalSegment text.toList := by
  unfold segments at h ⊢
  cases hsplit : splitAtToken text.toList with
  | none => exact segmentsFrom_of_none hsplit
  | some parts =>
      obtain ⟨front, body, back⟩ := parts
      rw [segmentsFrom_eq_cons hsplit] at h
      exact absurd (by simp) (h (Token.ofBody (0 + byteCount front) body))

/-! ## Names -/

theorem notMem_of_isPatternName {name : String} (h : isPatternName name = true) {c : Char}
    (hc : isNameChar c = false) : c ∉ name.toList := by
  intro hmem
  have hall := (Bool.and_eq_true_iff.1 h).2
  rw [List.all_eq_true.1 hall c hmem] at hc
  cases hc

/-- The text that refers to a name and keeps nothing. -/
def reference (name : String) : String := "%\x7b" ++ name ++ "\x7d"

def Token.ofName (offset : Nat) (name : String) : Token :=
  ⟨name, none, none, offset, reference name⟩

theorem Token.ofBody_of_isPatternName {name : String} (h : isPatternName name = true)
    (offset : Nat) : Token.ofBody offset name.toList = .ofName offset name := by
  have hcolon : splitAtMark [':'] name.toList = none :=
    splitAtMark_eq_none (notMem_of_isPatternName h (by decide))
  have hraw : String.ofList (opener ++ name.toList ++ ['\x7d']) = reference name := by
    rw [← String.toList_inj]
    simp [reference, opener]
  unfold ofBody
  simp only [hcolon, hraw, String.ofList_toList]
  rfl

theorem segmentsFrom_reference {name : String} (h : isPatternName name = true) (offset : Nat)
    (back : String) :
    segmentsFrom [] offset (reference name ++ back).toList =
      .token (.ofName offset name) ::
        segmentsFrom [] (offset + (reference name).utf8ByteSize) back.toList := by
  have hbody : '\x7d' ∉ name.toList := notMem_of_isPatternName h (by decide)
  have htext : (reference name ++ back).toList =
      Token.opener ++ name.toList ++ '\x7d' :: back.toList := by
    simp [reference, Token.opener]
  rw [htext, segmentsFrom_token hbody, segmentsFrom_eq_append, Token.ofBody_of_isPatternName h]
  simp [Token.ofName]

theorem segments_reference {name : String} (h : isPatternName name = true) :
    segments (reference name) = [.token (.ofName 0 name)] := by
  have hsegments := segmentsFrom_reference h 0 ""
  rwa [String.append_empty, String.toList_empty, segmentsFrom_nil] at hsegments

end LogPattern
