import LogPattern.Proofs.Bytewise.Slice

/-!
# Dividing a pattern text by offsets

The tokens of a pattern text are found by their offsets, and the segments are cut out between
them.  Every cut can be made, and the segments are those of the text.
-/

namespace LogPattern.Bytewise

open String

/-- The offsets of the opener and the closer of the first token behind an offset, if any. -/
def tokenBehind? (text : String) (cursor : Nat) : Option (Option (Nat × Nat)) :=
  (sliceFrom? text cursor).bind fun rest =>
    match find? "%\x7b" rest with
    | none => some none
    | some literal =>
        let opener := cursor + literal
        (sliceFrom? text (opener + 2)).map fun behind =>
          (find? "\x7d" behind).map fun body => (opener, opener + 2 + body)

theorem lt_of_tokenBehind? {text : String} {cursor opener closer : Nat}
    (h : tokenBehind? text cursor = some (some (opener, closer))) :
    cursor < text.utf8ByteSize ∧ cursor < closer := by
  obtain ⟨rest, hrest, h⟩ := Option.bind_eq_some_iff.1 h
  obtain ⟨front, back, rfl, rfl, hstop⟩ := slice?_eq_some_iff.1 hrest
  split at h
  · cases h
  · next literal hliteral =>
      obtain ⟨behind, -, h⟩ := Option.map_eq_some_iff.1 h
      obtain ⟨body, -, h⟩ := Option.map_eq_some_iff.1 h
      cases h
      have hne : rest ≠ "" := by
        rintro rfl
        cases hliteral
      have hsize := Nat.pos_of_ne_zero (mt utf8ByteSize_eq_zero_iff.1 hne)
      omega

def segmentsFrom? (text : String) (done : List Segment) (cursor : Nat) : Option (List Segment) :=
  match _h : tokenBehind? text cursor with
  | none => none
  | some none =>
      if cursor < text.utf8ByteSize then
        (sliceFrom? text cursor).map fun rest => done.reverse ++ [.literal rest]
      else some done.reverse
  | some (some (opener, closer)) =>
      match if cursor < opener then (slice? text cursor opener).map ([.literal ·]) else some [],
        slice? text (opener + 2) closer, slice? text opener (closer + 1) with
      | some literal, some body, some raw =>
          let token := { Token.ofBody opener body.toList with raw }
          segmentsFrom? text (.token token :: (literal ++ done)) (closer + 1)
      | _, _, _ => none
termination_by text.utf8ByteSize - cursor
decreasing_by
  have hlt := lt_of_tokenBehind? ‹_›
  omega

def segments? (text : String) : Option (List Segment) := segmentsFrom? text [] 0

section Steps

variable {text : String} {done : List Segment} {cursor opener closer : Nat}

theorem segmentsFrom?_of_none (h : tokenBehind? text cursor = some none) :
    segmentsFrom? text done cursor =
      if cursor < text.utf8ByteSize then
        (sliceFrom? text cursor).map fun rest => done.reverse ++ [.literal rest]
      else some done.reverse := by
  rw [segmentsFrom?]
  split
  · next hnone => rw [h] at hnone; cases hnone
  · rfl
  · next hsome => rw [h] at hsome; cases hsome

theorem segmentsFrom?_of_some (h : tokenBehind? text cursor = some (some (opener, closer)))
    {literal : List Segment} {body raw : String}
    (hliteral : (if cursor < opener then (slice? text cursor opener).map ([.literal ·])
      else some []) = some literal)
    (hbody : slice? text (opener + 2) closer = some body)
    (hraw : slice? text opener (closer + 1) = some raw) :
    segmentsFrom? text done cursor =
      segmentsFrom? text
        (.token { Token.ofBody opener body.toList with raw } :: (literal ++ done))
        (closer + 1) := by
  rw [segmentsFrom?]
  split
  · next hnone => rw [h] at hnone; cases hnone
  · next hnone => rw [h] at hnone; cases hnone
  · next hsome =>
      rw [h] at hsome
      cases hsome
      rw [hliteral, hbody, hraw]

end Steps

theorem isAscii_closer : ∀ c ∈ ['\x7d'], IsAscii c := List.forall_mem_singleton.2 (by decide)

theorem isAscii_opener : ∀ c ∈ Token.opener, IsAscii c :=
  List.forall_mem_cons.2 ⟨by decide, List.forall_mem_singleton.2 (by decide)⟩

theorem byteCount_opener : byteCount Token.opener = 2 := rfl

theorem byteCount_closer : byteCount ['\x7d'] = 1 := rfl

variable {text : String} {front rest : List Char}

theorem tokenBehind?_of_toList (h : text.toList = front ++ rest) :
    tokenBehind? text (byteCount front) =
      some ((splitAtToken rest).map fun (literal, body, _) =>
        (byteCount front + byteCount literal,
          byteCount front + byteCount literal + 2 + byteCount body)) := by
  have hopener : find? "%\x7b" (ofList rest) =
      (splitAtMark Token.opener rest).map fun parts => byteCount parts.1 :=
    find?_ofList (by decide) isAscii_opener rest
  rw [tokenBehind?, sliceFrom?_of_toList h, Option.bind_some, hopener, splitAtToken]
  cases hopen : splitAtMark Token.opener rest with
  | none => rfl
  | some parts =>
      obtain ⟨literal, behind⟩ := parts
      have hbehind : text.toList = front ++ literal ++ Token.opener ++ behind := by
        rw [h, ← splitAtMark_eq_append hopen]
        simp
      have hcloser : find? "\x7d" (ofList behind) =
          (splitAtMark ['\x7d'] behind).map fun parts => byteCount parts.1 :=
        find?_ofList (by decide) isAscii_closer behind
      have hcut := sliceFrom?_of_toList hbehind
      rw [byteCount_append, byteCount_append, byteCount_opener] at hcut
      simp only [Option.map_some, hcut, hcloser]
      cases splitAtMark ['\x7d'] behind <;> rfl

theorem ofBody_raw (offset : Nat) (body : List Char) :
    { Token.ofBody offset body with raw := ofList (Token.opener ++ body ++ ['\x7d']) } =
      Token.ofBody offset body := by
  rw [← Token.raw_ofBody offset body]

theorem slices_of_token {literal body back : List Char}
    (h : text.toList = front ++ (literal ++ (Token.opener ++ body ++ ['\x7d']) ++ back)) :
    (if byteCount front < byteCount front + byteCount literal then
        (slice? text (byteCount front) (byteCount front + byteCount literal)).map ([.literal ·])
      else some []) = some (literalSegment literal) ∧
    slice? text (byteCount front + byteCount literal + 2)
        (byteCount front + byteCount literal + 2 + byteCount body) = some (ofList body) ∧
    slice? text (byteCount front + byteCount literal)
        (byteCount front + byteCount literal + 2 + byteCount body + 1) =
      some (ofList (Token.opener ++ body ++ ['\x7d'])) := by
  refine ⟨?_, ?_, ?_⟩
  · have hcut := @slice?_of_toList text front literal
      ((Token.opener ++ body ++ ['\x7d']) ++ back) (by rw [h]; simp)
    cases literal with
    | nil => simp [literalSegment]
    | cons c literal =>
        have hpos := c.utf8Size_pos
        rw [if_pos (by rw [byteCount_cons]; omega), hcut]
        rfl
  · have hcut := @slice?_of_toList text (front ++ literal ++ Token.opener) body
      (['\x7d'] ++ back) (by rw [h]; simp)
    rwa [byteCount_append, byteCount_append, byteCount_opener] at hcut
  · have hcut := @slice?_of_toList text (front ++ literal) (Token.opener ++ body ++ ['\x7d']) back
      (by rw [h]; simp)
    simp only [byteCount_append, byteCount_opener, byteCount_closer, ← Nat.add_assoc] at hcut
    exact hcut

theorem segmentsFrom?_of_toList (h : text.toList = front ++ rest) (done : List Segment) :
    segmentsFrom? text done (byteCount front) =
      some (segmentsFrom done (byteCount front) rest) := by
  induction hlength : rest.length using Nat.strongRecOn generalizing done front rest with
  | ind length ih =>
      have htoken := tokenBehind?_of_toList h
      have hsize : text.utf8ByteSize = byteCount front + byteCount rest := by
        rw [utf8ByteSize_of_toList h, byteCount_append]
      cases hsplit : splitAtToken rest with
      | none =>
          rw [hsplit, Option.map_none] at htoken
          rw [segmentsFrom_of_none hsplit, segmentsFrom?_of_none htoken, sliceFrom?_of_toList h,
            hsize, Option.map_some, literalSegment]
          cases rest with
          | nil => simp
          | cons c rest =>
              have hpos := c.utf8Size_pos
              rw [byteCount_cons, if_pos (by omega), List.isEmpty_cons, if_neg (by decide)]
      | some parts =>
          obtain ⟨literal, body, back⟩ := parts
          have hrest := splitAtToken_eq_append hsplit
          rw [hsplit, Option.map_some] at htoken
          obtain ⟨hliteral, hbody, hraw⟩ :=
            slices_of_token (h.trans (congrArg (front ++ ·) hrest.symm))
          have hshorter : back.length < length := hlength ▸ length_lt_of_splitAtToken hsplit
          have hback : text.toList =
              front ++ literal ++ (Token.opener ++ body ++ ['\x7d']) ++ back := by
            rw [h, ← hrest]
            simp
          have hcloser : byteCount (front ++ literal ++ (Token.opener ++ body ++ ['\x7d'])) =
              byteCount front + byteCount literal + 2 + byteCount body + 1 := by
            simp only [byteCount_append, byteCount_opener, byteCount_closer]
            omega
          have hnext := ih back.length hshorter hback
            (.token (Token.ofBody (byteCount front + byteCount literal) body) ::
              (literalSegment literal ++ done)) rfl
          rw [hcloser] at hnext
          rw [segmentsFrom_of_some hsplit, segmentsFrom?_of_some htoken hliteral hbody hraw,
            toList_ofList, ofBody_raw, hnext, Token.raw_ofBody, ← byteCount_eq]
          simp only [byteCount_append, byteCount_opener, byteCount_closer, Nat.add_assoc]

/-- Every pattern text can be divided by offsets. -/
theorem segments?_eq (text : String) : segments? text = some (segments text) :=
  @segmentsFrom?_of_toList text [] text.toList rfl []

end LogPattern.Bytewise
