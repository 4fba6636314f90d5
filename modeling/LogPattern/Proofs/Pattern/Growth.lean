import LogPattern.Proofs.Pattern.References

/-!
# The length of an expansion

An expansion only grows.  So it is refused for its length only where the text of all its
pieces is too long, however far the expansion has come.
-/

namespace LogPattern.Expansion

/-- Some of the pieces, from the first one on, already make too long a text. -/
def Overflows (before : Expansion) (pieces : List Piece) : Prop :=
  ∃ front middle, front <+: pieces ∧ before.Writes front middle ∧
    maxExpandedLength < middle.text.utf8ByteSize

namespace Overflows

variable {before middle : Expansion} {front back : List Piece}

theorem of_checkLength {chain : List String} {e : CompileError}
    (hwrites : before.Writes front middle)
    (h : middle.checkLength chain = .error e) : before.Overflows front := by
  unfold checkLength at h
  split at h
  · next hlong => exact ⟨front, middle, List.prefix_refl _, hwrites, hlong⟩
  · cases h

theorem mono (h : before.Overflows front) (hpieces : front <+: back) : before.Overflows back := by
  obtain ⟨written, after, hprefix, hrest⟩ := h
  exact ⟨written, after, hprefix.trans hpieces, hrest⟩

theorem behind (hwrites : before.Writes front middle) (h : middle.Overflows back) :
    before.Overflows (front ++ back) := by
  obtain ⟨written, after, hprefix, hback, hlong⟩ := h
  exact ⟨front ++ written, after, (List.prefix_append_right_inj front).2 hprefix,
    hwrites.trans hback, hlong⟩

theorem lt_byteSize (h : before.Overflows front) :
    maxExpandedLength < (before.text ++
      String.ofList (Piece.textFrom before.fields.size front)).utf8ByteSize := by
  obtain ⟨written, after, ⟨rest, rfl⟩, ⟨htext, -⟩, hlong⟩ := h
  have hafter : after.text =
      before.text ++ String.ofList (Piece.textFrom before.fields.size written) := by
    rw [← String.toList_inj, htext]
    simp
  rw [hafter, String.utf8ByteSize_append] at hlong
  rw [Piece.textFrom_append, String.ofList_append, String.utf8ByteSize_append,
    String.utf8ByteSize_append]
  omega

end Overflows

/-- Where one of several segments overflows, all their pieces do. -/
theorem overflows_of_foldlM {step : Expansion → Segment → Except CompileError Expansion}
    {write : Segment → List Piece} {problem : RegexProblem}
    (hstep : ∀ {before segment after}, step before segment = .ok after →
      before.Writes (write segment) after)
    (herror : ∀ {before segment}, step before segment = .error (.invalidRegex problem) →
      before.Overflows (write segment))
    {parts : List Segment} {before : Expansion}
    (h : parts.foldlM step before = .error (.invalidRegex problem)) :
    before.Overflows (parts.flatMap write) := by
  induction parts generalizing before with
  | nil => cases h
  | cons segment rest ih =>
      rw [List.foldlM_cons] at h
      rw [List.flatMap_cons]
      rcases except_bind_eq_error h with hfirst | ⟨middle, hfirst, hrest⟩
      · exact (herror hfirst).mono (List.prefix_append _ _)
      · exact .behind (hstep hfirst) (ih hrest)

theorem expandSegment_writes {lookup : Lookup} {maxDepth position depth : Nat}
    {chain : List String} {segment : Segment} {before after : Expansion}
    (h : expandSegment lookup maxDepth position depth chain before segment = .ok after) :
    before.Writes (fragmentPieces (tokenPieces lookup depth) segment) after := by
  cases segment with
  | literal text =>
      rw [eq_of_checkLength h]
      exact Writes.of_append before (.fragment _) rfl
  | token inner =>
      obtain ⟨expanded, hinner, hcheck⟩ := except_bind_eq_ok h
      rw [eq_of_checkLength hcheck]
      exact expandToken_writes hinner

theorem expandToken_invalidRegex_inv {lookup : Lookup} {maxDepth position depth : Nat}
    {chain : List String} {token : Token} {before : Expansion} {problem : RegexProblem}
    (h : expandToken lookup maxDepth position depth chain token before =
      .error (.invalidRegex problem)) :
    ∃ fragment rest, lookup token.name = some fragment ∧ depth = rest + 1 ∧
      (segments fragment).foldlM
        (expandSegment lookup maxDepth position rest (token.name :: chain))
        (before.openToken token) = .error (.invalidRegex problem) := by
  by_cases hknown : IsKnown lookup token.name
  swap
  · rw [expandToken_of_unknown hknown] at h
    cases h
  by_cases hmem : token.name ∈ chain
  · rw [expandToken_of_mem hknown hmem] at h
    cases h
  cases depth with
  | zero =>
      rw [expandToken_zero hknown hmem] at h
      cases h
  | succ rest =>
      obtain ⟨fragment, hfragment, -⟩ := exists_fragment_of_isKnown hknown
      rw [expandToken_succ hknown hfragment hmem] at h
      exact ⟨fragment, rest, hfragment, rfl, except_map_eq_error h⟩

/-- A token overflows before its closer is written. -/
theorem expandToken_overflows {lookup : Lookup} {maxDepth position depth : Nat}
    {chain : List String} {token : Token} {before : Expansion} {problem : RegexProblem}
    (h : expandToken lookup maxDepth position depth chain token before =
      .error (.invalidRegex problem)) :
    before.Overflows (tokenPieces lookup depth token).dropLast := by
  induction depth generalizing chain token before with
  | zero =>
      obtain ⟨_, rest, -, hdepth, -⟩ := expandToken_invalidRegex_inv h
      omega
  | succ depth ih =>
      obtain ⟨fragment, rest, hfragment, hdepth, hfold⟩ := expandToken_invalidRegex_inv h
      obtain rfl : depth = rest := by omega
      have hpieces : (tokenPieces lookup (depth + 1) token).dropLast = [.opener token] ++
          (segments fragment).flatMap (fragmentPieces (tokenPieces lookup depth)) := by
        rw [tokenPieces, hfragment, List.dropLast_concat]
        rfl
      rw [hpieces]
      refine .behind (Writes.openToken before token) ?_
      refine overflows_of_foldlM (fun hs => expandSegment_writes hs) (fun {s segment} hs => ?_)
        hfold
      cases segment with
      | literal text => exact .of_checkLength (Writes.of_append s (.fragment _) rfl) hs
      | token inner =>
          rcases except_bind_eq_error hs with hinner | ⟨expanded, hinner, hcheck⟩
          · exact (ih hinner).mono (List.dropLast_prefix _)
          · exact .of_checkLength (expandToken_writes hinner) hcheck

theorem expandSegments_overflows {lookup : Lookup} {maxDepth : Nat} {first : Bool}
    {parts : List Segment} {before : Expansion} {problem : RegexProblem}
    (h : expandSegments lookup maxDepth first parts before = .error (.invalidRegex problem)) :
    before.Overflows (segmentPieces lookup maxDepth first parts) := by
  induction parts generalizing first before with
  | nil => cases h
  | cons segment rest ih =>
      cases segment with
      | literal text =>
          rw [expandSegments_literal] at h
          have hwrites := Writes.of_append before
            (.literal (AnchoredLiteral.ofText text.toList first rest.isEmpty)) rfl
          rcases except_bind_eq_error h with hcheck | ⟨middle, hcheck, hrest⟩
          · exact (Overflows.of_checkLength hwrites hcheck).mono (List.prefix_append _ _)
          · obtain rfl := eq_of_checkLength hcheck
            exact .behind hwrites (ih hrest)
      | token token =>
          rw [expandSegments_token] at h
          rcases except_bind_eq_error h with htoken | ⟨middle, htoken, hrest⟩
          · exact (expandToken_overflows htoken).mono
              ((List.dropLast_prefix _).trans (List.prefix_append _ _))
          · exact .behind (expandToken_writes htoken) (ih hrest)

/-- A text whose references can all be followed is expanded, if its pieces are short enough. -/
theorem exists_ofText {lookup : Lookup} {maxDepth : Nat} {text : String} (htext : text ≠ "")
    (hresolvable : Resolvable lookup maxDepth text)
    (hlength : (String.ofList (Piece.textFrom 0 (pieces lookup maxDepth text))).utf8ByteSize ≤
      maxExpandedLength) :
    ∃ expansion, ofText lookup maxDepth text = .ok expansion := by
  cases h : ofText lookup maxDepth text with
  | ok expansion => exact ⟨expansion, rfl⟩
  | error e =>
      have hcompile : CompiledPattern.compile lookup maxDepth text = .error e := by
        rw [CompiledPattern.compile, h]
      obtain ⟨problem, rfl⟩ :=
        CompiledPattern.compile_error_of_resolvable htext hresolvable hcompile
      rw [ofText_of_ne_empty htext] at h
      have hlong := (expandSegments_overflows h).lt_byteSize
      have hstart : Expansion.start.text ++ String.ofList (Piece.textFrom Expansion.start.fields.size
          (segmentPieces lookup maxDepth true (segments text))) =
            String.ofList (Piece.textFrom 0 (pieces lookup maxDepth text)) := by
        simp [start, pieces]
      rw [hstart] at hlong
      omega

end LogPattern.Expansion
