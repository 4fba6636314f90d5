import LogPattern.Proofs.Pattern.Tokenize

/-!
# The division of a pattern text

A pattern text has exactly one division into literals and tokens that puts the text together
again, and it is the one that is found: no literal has a token in it, and two literals do not
stand side by side.
-/

namespace LogPattern

/-! ## The first place of a mark -/

theorem exists_passed_of_splitAtMarkFrom {mark before text front back : List Char}
    (hmark : mark ≠ []) (h : splitAtMarkFrom mark before text = some (front, back)) :
    ∃ passed, front = before.reverse ++ passed ∧ ¬ mark <:+: passed := by
  induction text generalizing before with
  | nil => cases h
  | cons c rest ih =>
      rw [splitAtMarkFrom] at h
      split at h
      · cases h
        exact ⟨[], by simp, by simpa using hmark⟩
      · next hnot =>
          obtain ⟨passed, rfl, hpassed⟩ := ih h
          have htext : passed ++ mark ++ back = rest := by
            simpa using splitAtMarkFrom_eq_append h
          refine ⟨c :: passed, by simp, fun hinfix => ?_⟩
          rcases List.infix_cons_iff.1 hinfix with hbegins | hlater
          · have hlonger : c :: passed <+: c :: rest :=
              (List.prefix_cons_inj c).2 ⟨mark ++ back, by rw [← List.append_assoc, htext]⟩
            exact hnot (List.isPrefixOf_iff_prefix.2 (hbegins.trans hlonger))
          · exact hpassed hlater

theorem not_infix_of_splitAtMark {mark text front back : List Char} (hmark : mark ≠ [])
    (h : splitAtMark mark text = some (front, back)) : ¬ mark <:+: front := by
  obtain ⟨passed, hpassed, hnot⟩ := exists_passed_of_splitAtMarkFrom hmark h
  obtain rfl : front = passed := by simpa using hpassed
  exact hnot

theorem splitAtMarkFrom_opener {front : List Char} (h : ¬ Token.opener <:+: front)
    (before back : List Char) :
    splitAtMarkFrom Token.opener before (front ++ Token.opener ++ back) =
      some (before.reverse ++ front, back) := by
  induction front generalizing before with
  | nil =>
      have hopener : Token.opener ≠ [] := by decide
      simpa using splitAtMarkFrom_self hopener before back
  | cons c front ih =>
      rw [List.infix_cons_iff, not_or] at h
      -- the two characters differ, so an opener does not begin with the end of another one
      have hother : Token.opener.isPrefixOf (c :: (front ++ Token.opener ++ back)) = false := by
        cases front with
        | nil => simp [Token.opener, List.isPrefixOf]
        | cons second front =>
            have hbegins : ¬ ('%' = c ∧ '\x7b' = second) := by
              simpa [Token.opener, List.cons_prefix_cons] using h.1
            simpa [Token.opener, List.isPrefixOf] using hbegins
      rw [List.cons_append, List.cons_append, splitAtMarkFrom, hother]
      simpa using ih h.2 (c :: before)

theorem splitAtMark_opener {front : List Char} (h : ¬ Token.opener <:+: front)
    (back : List Char) :
    splitAtMark Token.opener (front ++ Token.opener ++ back) = some (front, back) :=
  splitAtMarkFrom_opener h [] back

/-! ## The first token -/

/-- A closing brace does not follow the first opener of the text. -/
def IsOpenEnded (text : List Char) : Prop :=
  ∀ before behind, text = before ++ Token.opener ++ behind → ¬ Token.opener <:+: before →
    '\x7d' ∉ behind

theorem splitAtToken_of_not_infix {front body : List Char} (hfront : ¬ Token.opener <:+: front)
    (hbody : '\x7d' ∉ body) (back : List Char) :
    splitAtToken (front ++ (Token.opener ++ body ++ ['\x7d']) ++ back) =
      some (front, body, back) := by
  have htext : front ++ (Token.opener ++ body ++ ['\x7d']) ++ back =
      front ++ Token.opener ++ (body ++ '\x7d' :: back) := by
    simp
  rw [splitAtToken, htext, splitAtMark_opener hfront]
  simp only [splitAtMark_of_notMem hbody]

theorem not_infix_of_splitAtToken {text front body back : List Char}
    (h : splitAtToken text = some (front, body, back)) : ¬ Token.opener <:+: front := by
  unfold splitAtToken at h
  split at h
  · cases h
  · next hopen =>
      split at h
      · cases h
      · cases h
        exact not_infix_of_splitAtMark (by decide) hopen

theorem splitAtToken_eq_none_iff {text : List Char} :
    splitAtToken text = none ↔ IsOpenEnded text := by
  constructor
  · rintro h before behind rfl hbefore hbrace
    obtain ⟨body, back, rfl, hbody⟩ := List.eq_append_cons_of_mem hbrace
    have hsome := splitAtToken_of_not_infix hbefore hbody back
    have htext : before ++ (Token.opener ++ body ++ ['\x7d']) ++ back =
        before ++ Token.opener ++ (body ++ '\x7d' :: back) := by
      simp
    rw [htext, h] at hsome
    cases hsome
  · intro hopen
    cases hsplit : splitAtToken text with
    | none => rfl
    | some parts =>
        obtain ⟨front, body, back⟩ := parts
        have htext : text = front ++ Token.opener ++ (body ++ '\x7d' :: back) := by
          rw [← splitAtToken_eq_append hsplit]
          simp
        exact absurd (by simp) (hopen _ _ htext (not_infix_of_splitAtToken hsplit))

/-! ## Bodies -/

namespace Token

/--
The parts of a token's body: the name goes up to the first colon and the field up to the
second one; the hint is everything behind it.
-/
inductive HasParts : (body name field hint : List Char) → Prop
  | name {name : List Char} (hname : ':' ∉ name) : HasParts name name [] []
  | field {name field : List Char} (hname : ':' ∉ name) (hfield : ':' ∉ field) :
      HasParts (name ++ ':' :: field) name field []
  | hint {name field : List Char} (hname : ':' ∉ name) (hfield : ':' ∉ field) (hint : List Char) :
      HasParts (name ++ ':' :: (field ++ ':' :: hint)) name field hint

/-- The token stands `offset` bytes from the start of a text, with `body` between its braces. -/
structure IsWritten (token : Token) (offset : Nat) (body : List Char) : Prop where
  closed : '\x7d' ∉ body
  raw : token.raw.toList = opener ++ body ++ ['\x7d']
  offset : token.offset = offset
  parts : ∃ field hint, HasParts body token.name.toList field hint ∧
    token.field = nonEmptyPart field ∧ token.hint = nonEmptyPart hint

theorem exists_parts_ofBody (offset : Nat) (body : List Char) :
    ∃ field hint, HasParts body (ofBody offset body).name.toList field hint ∧
      (ofBody offset body).field = nonEmptyPart field ∧
      (ofBody offset body).hint = nonEmptyPart hint := by
  cases hfirst : splitAtMark [':'] body with
  | none =>
      have hname := notMem_of_splitAtMark_eq_none hfirst
      refine ⟨[], [], ?_, ?_⟩
      · simpa [ofBody, hfirst] using HasParts.name hname
      · simp [ofBody, hfirst, nonEmptyPart]
  | some parts =>
      obtain ⟨name, rest⟩ := parts
      have hname := notMem_of_splitAtMark hfirst
      have hbody : name ++ ':' :: rest = body := by simpa using splitAtMark_eq_append hfirst
      cases hsecond : splitAtMark [':'] rest with
      | none =>
          have hfield := notMem_of_splitAtMark_eq_none hsecond
          refine ⟨rest, [], ?_, ?_⟩
          · simpa [ofBody, hfirst, hsecond, hbody] using HasParts.field hname hfield
          · simp [ofBody, hfirst, hsecond, nonEmptyPart]
      | some parts =>
          obtain ⟨field, hint⟩ := parts
          have hfield := notMem_of_splitAtMark hsecond
          have hrest : field ++ ':' :: hint = rest := by
            simpa using splitAtMark_eq_append hsecond
          refine ⟨field, hint, ?_, ?_⟩
          · simpa [ofBody, hfirst, hsecond, hbody, hrest] using HasParts.hint hname hfield hint
          · simp [ofBody, hfirst, hsecond]

theorem isWritten_ofBody {body : List Char} (h : '\x7d' ∉ body) (offset : Nat) :
    (ofBody offset body).IsWritten offset body where
  closed := h
  raw := by rw [raw_ofBody, String.toList_ofList]
  offset := by
    unfold ofBody
    split
    · rfl
    · split <;> rfl
  parts := exists_parts_ofBody offset body

/-- A text with a body between braces says one token only. -/
theorem IsWritten.eq_ofBody {token : Token} {offset : Nat} {body : List Char}
    (h : token.IsWritten offset body) : token = ofBody offset body := by
  obtain ⟨field, hint, hparts, hfield, hhint⟩ := h.parts
  have hraw : token.raw = String.ofList (opener ++ body ++ ['\x7d']) := by
    rw [← String.toList_inj, h.raw, String.toList_ofList]
  have htoken : token = ⟨String.ofList token.name.toList, nonEmptyPart field, nonEmptyPart hint,
      offset, String.ofList (opener ++ body ++ ['\x7d'])⟩ := by
    rw [← hfield, ← hhint, ← hraw, ← h.offset, String.ofList_toList]
  rw [htoken]
  generalize token.name.toList = name at hparts ⊢
  cases hparts with
  | name hcolon => simp [ofBody, splitAtMark_eq_none hcolon, nonEmptyPart]
  | field hcolon hlater =>
      simp [ofBody, splitAtMark_of_notMem hcolon, splitAtMark_eq_none hlater, nonEmptyPart]
  | hint hcolon hlater hint =>
      simp [ofBody, splitAtMark_of_notMem hcolon, splitAtMark_of_notMem hlater]

end Token

/-! ## Divisions -/

theorem byteCount_append (front back : List Char) :
    byteCount (front ++ back) = byteCount front + byteCount back := by
  simp only [byteCount_eq, String.ofList_append, String.utf8ByteSize_append]

def Segment.text : Segment → List Char
  | .literal text => text.toList
  | .token found => found.raw.toList

/-- The pieces divide a text that begins `offset` bytes into the pattern text. -/
structure Divides (offset : Nat) (text : List Char) (pieces : List Segment) : Prop where
  joined : pieces.flatMap Segment.text = text
  nonempty : ∀ literal, .literal literal ∈ pieces → literal ≠ ""
  apart : ∀ literal other, ¬ [.literal literal, .literal other] <:+: pieces
  written : ∀ front token back, pieces = front ++ .token token :: back →
    ∃ body, token.IsWritten (offset + byteCount (front.flatMap Segment.text)) body
  /-- In front of a token, a literal has no opener. -/
  plain : ∀ literal token, [.literal literal, .token token] <:+: pieces →
    ¬ Token.opener <:+: literal.toList
  /-- The first opener of a literal at the end has no closing brace behind it. -/
  open_ended : ∀ literal, [.literal literal] <:+ pieces → IsOpenEnded literal.toList

namespace Divides

variable {offset : Nat} {text : List Char} {pieces : List Segment}

theorem cons_token {token : Token} {body : List Char} (htoken : token.IsWritten offset body)
    (h : Divides (offset + byteCount token.raw.toList) text pieces) :
    Divides offset (token.raw.toList ++ text) (.token token :: pieces) where
  joined := by rw [List.flatMap_cons, h.joined, Segment.text]
  nonempty := by simpa using h.nonempty
  apart literal other := by simpa [List.infix_cons_iff] using h.apart literal other
  written front other back hpieces := by
    cases front with
    | nil =>
        cases hpieces
        exact ⟨body, htoken⟩
    | cons piece front =>
        cases hpieces
        obtain ⟨body, hbody⟩ := h.written front other back rfl
        rw [List.flatMap_cons, Segment.text, byteCount_append, ← Nat.add_assoc]
        exact ⟨body, hbody⟩
  plain literal other := by simpa [List.infix_cons_iff] using h.plain literal other
  open_ended literal := by simpa [List.suffix_cons_iff] using h.open_ended literal

theorem cons_literal {front : List Char} {token : Token} (hne : front ≠ [])
    (hplain : ¬ Token.opener <:+: front)
    (h : Divides (offset + byteCount front) text (.token token :: pieces)) :
    Divides offset (front ++ text) (.literal (String.ofList front) :: .token token :: pieces) where
  joined := by rw [List.flatMap_cons, h.joined, Segment.text, String.toList_ofList]
  nonempty := by simpa [hne] using h.nonempty
  apart literal other := by simpa [List.infix_cons_iff] using h.apart literal other
  written before other back hpieces := by
    cases before with
    | nil => cases hpieces
    | cons piece before =>
        rw [List.cons_append, List.cons.injEq] at hpieces
        obtain ⟨rfl, hpieces⟩ := hpieces
        obtain ⟨body, hbody⟩ := h.written before other back hpieces
        rw [List.flatMap_cons, Segment.text, String.toList_ofList, byteCount_append,
          ← Nat.add_assoc]
        exact ⟨body, hbody⟩
  plain literal other := by
    have hlater := h.plain literal other
    rw [List.infix_cons_iff]
    rintro (hbegins | hinfix)
    · cases (List.cons_prefix_cons.1 hbegins).1
      rwa [String.toList_ofList]
    · exact hlater hinfix
  open_ended literal := by simpa [List.suffix_cons_iff] using h.open_ended literal

theorem literalSegment_append {front : List Char} {token : Token}
    (hplain : ¬ Token.opener <:+: front)
    (h : Divides (offset + byteCount front) text (.token token :: pieces)) :
    Divides offset (front ++ text) (literalSegment front ++ .token token :: pieces) := by
  cases front with
  | nil => simpa [literalSegment, byteCount] using h
  | cons c front => exact cons_literal (List.cons_ne_nil c front) hplain h

theorem tail {piece : Segment} (h : Divides offset text (piece :: pieces)) :
    Divides (offset + byteCount piece.text) (pieces.flatMap Segment.text) pieces where
  joined := rfl
  nonempty literal hmem := h.nonempty literal (List.mem_cons_of_mem _ hmem)
  apart literal other hinfix := h.apart literal other (List.infix_cons hinfix)
  written front token back hpieces := by
    obtain ⟨body, hbody⟩ := h.written (piece :: front) token back (by rw [hpieces]; rfl)
    rw [List.flatMap_cons, byteCount_append, ← Nat.add_assoc] at hbody
    exact ⟨body, hbody⟩
  plain literal token hinfix := h.plain literal token (List.infix_cons hinfix)
  open_ended literal hsuffix := h.open_ended literal (hsuffix.trans (List.suffix_cons _ _))

end Divides

theorem divides_literalSegment {text : List Char} (h : IsOpenEnded text) (offset : Nat) :
    Divides offset text (literalSegment text) := by
  unfold literalSegment
  split
  · next hempty =>
      rw [List.isEmpty_iff.1 hempty]
      exact ⟨rfl, by simp, by simp, by simp, by simp, by simp⟩
  · next hne =>
      constructor
      case joined => simp [Segment.text]
      case nonempty =>
        intro literal hmem
        cases List.mem_singleton.1 hmem
        simpa using hne
      case apart => simp [List.infix_cons_iff]
      case written => simp [List.cons_eq_append_iff]
      case plain => simp [List.infix_cons_iff]
      case open_ended => simpa [List.suffix_cons_iff] using h

theorem literalSegment_toList {literal : String} (h : literal ≠ "") :
    literalSegment literal.toList = [.literal literal] := by
  have hne : ¬ literal.toList.isEmpty = true := by simpa using h
  rw [literalSegment, if_neg hne, String.ofList_toList]

theorem segmentsFrom_of_isWritten {offset : Nat} {front body : List Char} {token : Token}
    (hplain : ¬ Token.opener <:+: front) (htoken : token.IsWritten (offset + byteCount front) body)
    (back : List Char) :
    segmentsFrom [] offset (front ++ (token.raw.toList ++ back)) =
      literalSegment front ++ .token token ::
        segmentsFrom [] (offset + byteCount front + byteCount token.raw.toList) back := by
  have hsplit := splitAtToken_of_not_infix hplain htoken.closed back
  have hraw : byteCount token.raw.toList = token.raw.utf8ByteSize := by
    rw [byteCount_eq, String.ofList_toList]
  rw [hraw, htoken.raw, ← List.append_assoc, segmentsFrom_eq_cons hsplit, ← htoken.eq_ofBody]

/-- What is found divides the text. -/
theorem divides_segmentsFrom (offset : Nat) (text : List Char) :
    Divides offset text (segmentsFrom [] offset text) := by
  induction hlength : text.length using Nat.strongRecOn generalizing offset text with
  | ind length ih =>
      cases hsplit : splitAtToken text with
      | none =>
          rw [segmentsFrom_of_none hsplit]
          exact divides_literalSegment (splitAtToken_eq_none_iff.1 hsplit) offset
      | some parts =>
          obtain ⟨front, body, back⟩ := parts
          have hplain := not_infix_of_splitAtToken hsplit
          have htoken := Token.isWritten_ofBody (brace_notMem_of_splitAtToken hsplit)
            (offset + byteCount front)
          have hshorter : back.length < length := hlength ▸ length_lt_of_splitAtToken hsplit
          rw [← splitAtToken_eq_append hsplit, ← htoken.raw, List.append_assoc,
            segmentsFrom_of_isWritten hplain htoken]
          exact .literalSegment_append hplain (.cons_token htoken (ih _ hshorter _ _ rfl))

/-- A division is found from left to right, by its first token each time. -/
theorem Divides.segmentsFrom_eq {offset : Nat} {text : List Char} {pieces : List Segment}
    (h : Divides offset text pieces) : segmentsFrom [] offset text = pieces := by
  induction hlength : pieces.length using Nat.strongRecOn generalizing offset text pieces with
  | ind length ih =>
      rw [← h.joined]
      match pieces, h with
      | [], _ => exact segmentsFrom_nil
      | .token token :: rest, h =>
          obtain ⟨body, htoken⟩ := h.written [] token rest rfl
          have hplain : ¬ Token.opener <:+: [] := by decide
          have hshorter : rest.length < length := by
            rw [← hlength, List.length_cons]
            omega
          have hrest := ih rest.length hshorter h.tail rfl
          rw [List.flatMap_cons]
          exact (segmentsFrom_of_isWritten hplain htoken _).trans
            (congrArg (Segment.token token :: ·) hrest)
      | [.literal literal], h =>
          have hliteral := h.nonempty literal List.mem_cons_self
          have hopen := splitAtToken_eq_none_iff.2 (h.open_ended literal List.suffix_rfl)
          rw [List.flatMap_singleton, Segment.text, segmentsFrom_of_none hopen,
            literalSegment_toList hliteral]
          rfl
      | .literal literal :: .literal other :: _, h =>
          exact absurd (List.infix_append [] _ _) (h.apart literal other)
      | .literal literal :: .token token :: rest, h =>
          have hliteral := h.nonempty literal List.mem_cons_self
          have hplain := h.plain literal token (List.infix_append [] _ _)
          obtain ⟨body, htoken⟩ := h.written [.literal literal] token rest rfl
          have hshorter : rest.length < length := by
            rw [← hlength, List.length_cons, List.length_cons]
            omega
          have hrest := ih rest.length hshorter h.tail.tail rfl
          rw [List.flatMap_singleton, Segment.text] at htoken
          rw [List.flatMap_cons, List.flatMap_cons, Segment.text, Segment.text,
            segmentsFrom_of_isWritten hplain htoken, literalSegment_toList hliteral]
          exact congrArg (Segment.literal literal :: Segment.token token :: ·) hrest

/-- The segments of a text are its only division. -/
theorem segments_eq_iff_divides (text : String) (pieces : List Segment) :
    segments text = pieces ↔ Divides 0 text.toList pieces :=
  ⟨fun h => h ▸ divides_segmentsFrom 0 text.toList, Divides.segmentsFrom_eq⟩

/-- An empty field is none, and a hint may have colons in it. -/
example : segments "%{A}%%{B::a:b}!" =
    [.token ⟨"A", none, none, 0, "%{A}"⟩, .literal "%",
      .token ⟨"B", none, some "a:b", 5, "%{B::a:b}"⟩, .literal "!"] := by
  decide +kernel

end LogPattern
