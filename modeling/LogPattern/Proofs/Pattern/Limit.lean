import LogPattern.Proofs.Pattern.Doubling
import LogPattern.Proofs.Pattern.Growth

/-!
# The limit on the length of an expansion

The length of an expansion is checked behind every literal and behind every segment of a
fragment.  It is not checked behind the closer of a token of the pattern text, nor anywhere
in such a token if its fragment is empty.  So the limit binds the pieces up to the last
check, and what is written behind that comes on top.
-/

namespace LogPattern

def Piece.byteLength (pieces : List Piece) : Nat :=
  (String.ofList (Piece.textFrom 0 pieces)).utf8ByteSize

namespace Expansion

/-! ## The last check -/

/-- The pieces of a token up to the last check inside it. -/
def checkedInside (lookup : Lookup) (depth : Nat) (token : Token) : List Piece :=
  if (segments ((lookup token.name).getD "")).isEmpty then []
  else (tokenPieces lookup depth token).dropLast

/-- The pieces of segments up to the last check among them. -/
def checkedPieces (lookup : Lookup) (depth : Nat) (first : Bool) : List Segment → List Piece
  | [] => []
  | .literal text :: rest =>
      .literal (AnchoredLiteral.ofText text.toList first rest.isEmpty) ::
        checkedPieces lookup depth false rest
  | .token token :: rest =>
      match checkedPieces lookup depth false rest with
      | [] => checkedInside lookup depth token
      | piece :: later => tokenPieces lookup depth token ++ piece :: later

variable {lookup : Lookup} {maxDepth position depth : Nat} {chain : List String}

theorem checkedInside_isPrefix (lookup : Lookup) (depth : Nat) (token : Token) :
    checkedInside lookup depth token <+: tokenPieces lookup depth token := by
  unfold checkedInside
  split
  · exact List.nil_prefix
  · exact List.dropLast_prefix _

theorem checkedInside_succ {token : Token}
    (hfragment : segments ((lookup token.name).getD "") ≠ []) :
    checkedInside lookup (depth + 1) token =
      .opener token :: (segments ((lookup token.name).getD "")).flatMap
        (fragmentPieces (tokenPieces lookup depth)) := by
  simp only [checkedInside, List.isEmpty_iff, hfragment, if_false, tokenPieces,
    List.dropLast_concat]

theorem checkedPieces_token {token : Token} {rest : List Segment} (first : Bool)
    (h : checkedPieces lookup depth false rest ≠ []) :
    checkedPieces lookup depth first (.token token :: rest) =
      tokenPieces lookup depth token ++ checkedPieces lookup depth false rest := by
  rw [checkedPieces]
  split
  · next hnil => exact absurd hnil h
  · next hcons => rw [hcons]

theorem checkedPieces_last {token : Token} {rest : List Segment} (first : Bool)
    (h : checkedPieces lookup depth false rest = []) :
    checkedPieces lookup depth first (.token token :: rest) = checkedInside lookup depth token := by
  rw [checkedPieces, h]

theorem checkedPieces_isPrefix (first : Bool) (parts : List Segment) :
    checkedPieces lookup depth first parts <+: segmentPieces lookup depth first parts := by
  induction parts generalizing first with
  | nil => exact List.nil_prefix
  | cons segment rest ih =>
      cases segment with
      | literal text => exact (List.prefix_cons_inj _).2 (ih false)
      | token token =>
          rw [segmentPieces]
          by_cases hnil : checkedPieces lookup depth false rest = []
          · rw [checkedPieces_last first hnil]
            exact (checkedInside_isPrefix lookup depth token).trans (List.prefix_append _ _)
          · rw [checkedPieces_token first hnil]
            exact (List.prefix_append_right_inj _).2 (ih false)

/-- The last segments have a check of their own, so all that stands before them is covered. -/
theorem checkedPieces_append (first : Bool) {front back : List Segment}
    (h : ∀ first, checkedPieces lookup depth first back ≠ []) :
    ∃ written first', segmentPieces lookup depth first (front ++ back) =
        written ++ segmentPieces lookup depth first' back ∧
      checkedPieces lookup depth first (front ++ back) =
        written ++ checkedPieces lookup depth first' back := by
  induction front generalizing first with
  | nil => exact ⟨[], first, rfl, rfl⟩
  | cons segment front ih =>
      obtain ⟨written, first', hpieces, hchecked⟩ := ih false
      cases segment with
      | literal text =>
          refine ⟨.literal (AnchoredLiteral.ofText text.toList first (front ++ back).isEmpty) ::
            written, first', ?_, ?_⟩
          · rw [List.cons_append, segmentPieces, hpieces, List.cons_append]
          · rw [List.cons_append, checkedPieces, hchecked, List.cons_append]
      | token token =>
          have hne : checkedPieces lookup depth false (front ++ back) ≠ [] := by
            rw [hchecked]
            exact List.append_ne_nil_of_right_ne_nil _ (h first')
          refine ⟨tokenPieces lookup depth token ++ written, first', ?_, ?_⟩
          · rw [List.cons_append, segmentPieces, hpieces, List.append_assoc]
          · rw [List.cons_append, checkedPieces_token first hne, hchecked, List.append_assoc]

theorem checkedPieces_of_literal {parts : List Segment} {text : String} (first : Bool)
    (h : parts.getLast? = some (.literal text)) :
    segmentPieces lookup depth first parts = checkedPieces lookup depth first parts := by
  obtain ⟨front, rfl⟩ := List.getLast?_eq_some_iff.1 h
  obtain ⟨written, first', hpieces, hchecked⟩ :=
    @checkedPieces_append lookup depth first front [.literal text] fun first =>
      List.cons_ne_nil _ _
  rw [hpieces, hchecked]
  rfl

/-- Behind the last check of a token at the end stands its closer, if its fragment is not empty. -/
theorem checkedPieces_of_token {parts : List Segment} {token : Token} (first : Bool)
    (h : parts.getLast? = some (.token token))
    (hfragment : segments ((lookup token.name).getD "") ≠ []) :
    segmentPieces lookup (depth + 1) first parts =
      checkedPieces lookup (depth + 1) first parts ++ [.closer] := by
  obtain ⟨front, rfl⟩ := List.getLast?_eq_some_iff.1 h
  have hinside (first : Bool) : checkedPieces lookup (depth + 1) first [.token token] =
      .opener token :: (segments ((lookup token.name).getD "")).flatMap
        (fragmentPieces (tokenPieces lookup depth)) := checkedInside_succ hfragment
  obtain ⟨written, first', hpieces, hchecked⟩ :=
    @checkedPieces_append lookup (depth + 1) first front [.token token] fun first => by
      rw [hinside]
      exact List.cons_ne_nil _ _
  rw [hpieces, hchecked, hinside, List.append_assoc]
  simp [segmentPieces, tokenPieces]

/-! ## What the checks refuse -/

theorem size_le_of_checkLength {expansion after : Expansion}
    (h : expansion.checkLength chain = .ok after) :
    after.text.utf8ByteSize ≤ maxExpandedLength := by
  unfold checkLength at h
  split at h
  · cases h
  · next hshort =>
      cases h
      exact Nat.not_lt.1 hshort

theorem tooLong_of_checkLength {expansion : Expansion} {problem : RegexProblem}
    (h : expansion.checkLength chain = .error (.invalidRegex problem)) :
    ∃ origin, problem = .tooLong maxExpandedLength origin := by
  unfold checkLength at h
  split at h
  · cases h
    exact ⟨_, rfl⟩
  · cases h

theorem size_le_of_expandSegment {segment : Segment} {before after : Expansion}
    (h : expandSegment lookup maxDepth position depth chain before segment = .ok after) :
    after.text.utf8ByteSize ≤ maxExpandedLength := by
  cases segment with
  | literal text => exact size_le_of_checkLength h
  | token inner =>
      obtain ⟨expanded, -, hcheck⟩ := except_bind_eq_ok h
      exact size_le_of_checkLength hcheck

theorem holds_of_foldlM {step : Expansion → Segment → Except CompileError Expansion}
    {P : Expansion → Prop}
    (hstep : ∀ {before segment after}, step before segment = .ok after → P after)
    {parts : List Segment} {before after : Expansion} (hparts : parts ≠ [])
    (h : parts.foldlM step before = .ok after) : P after := by
  induction parts generalizing before with
  | nil => exact absurd rfl hparts
  | cons segment rest ih =>
      rw [List.foldlM_cons] at h
      obtain ⟨middle, hfirst, h⟩ := except_bind_eq_ok h
      by_cases hrest : rest = []
      · subst hrest
        cases h
        exact hstep hfirst
      · exact ih hrest h

/-- A token whose fragment is not empty has kept to the limit up to its closer. -/
theorem expandToken_checked {token : Token} {before after : Expansion}
    (h : expandToken lookup maxDepth position depth chain token before = .ok after)
    (hinside : checkedInside lookup depth token ≠ []) :
    ∃ middle, before.Writes (checkedInside lookup depth token) middle ∧
      middle.text.utf8ByteSize ≤ maxExpandedLength := by
  obtain ⟨fragment, rest, filled, hlookup, rfl, -, hfold⟩ := expandToken_inv h
  change (segments fragment).foldlM
    (expandSegment lookup maxDepth position rest (token.name :: chain)) _ = _ at hfold
  have hparts : segments ((lookup token.name).getD "") ≠ [] := by
    intro hnil
    exact hinside (by rw [checkedInside, hnil]; rfl)
  rw [checkedInside_succ hparts]
  rw [hlookup] at hparts ⊢
  exact ⟨filled, (Writes.openToken before token).trans
    (writes_of_foldlM (fun hs => expandSegment_writes hs) hfold),
    holds_of_foldlM (P := fun expansion => expansion.text.utf8ByteSize ≤ maxExpandedLength)
      (fun hs => size_le_of_expandSegment hs) hparts hfold⟩

/-- A token is refused for its expression only where its length is checked. -/
theorem expandToken_tooLong {token : Token} {before : Expansion} {problem : RegexProblem}
    (h : expandToken lookup maxDepth position depth chain token before =
      .error (.invalidRegex problem)) :
    ∃ origin, problem = .tooLong maxExpandedLength origin := by
  induction depth generalizing chain token before with
  | zero =>
      obtain ⟨_, rest, -, hdepth, -⟩ := expandToken_invalidRegex_inv h
      omega
  | succ depth ih =>
      obtain ⟨fragment, rest, -, hdepth, hfold⟩ := expandToken_invalidRegex_inv h
      obtain rfl : depth = rest := by omega
      obtain ⟨segment, -, s, hs⟩ := exists_error_of_foldlM hfold
      cases segment with
      | literal text => exact tooLong_of_checkLength hs
      | token inner =>
          rcases except_bind_eq_error hs with hinner | ⟨expanded, -, hcheck⟩
          · exact ih hinner
          · exact tooLong_of_checkLength hcheck

/-- A token that is refused for its length has passed the limit at a check inside it. -/
theorem expandToken_overflows_checked {token : Token} {before : Expansion}
    {problem : RegexProblem}
    (h : expandToken lookup maxDepth position depth chain token before =
      .error (.invalidRegex problem)) :
    checkedInside lookup depth token ≠ [] ∧
      before.Overflows (checkedInside lookup depth token) := by
  obtain ⟨fragment, rest, hfragment, rfl, hfold⟩ := expandToken_invalidRegex_inv h
  have hparts : segments ((lookup token.name).getD "") ≠ [] := by
    intro hnil
    rw [hfragment, Option.getD_some] at hnil
    rw [hnil] at hfold
    cases hfold
  have hinside : checkedInside lookup (rest + 1) token = _ := checkedInside_succ hparts
  refine ⟨hinside ▸ List.cons_ne_nil _ _, ?_⟩
  have hoverflows := expandToken_overflows h
  rwa [tokenPieces, List.dropLast_concat, ← hinside] at hoverflows

/-! ## Whole pattern texts -/

/-- An expansion that succeeds has kept to the limit up to its last check. -/
theorem expandSegments_checked {first : Bool} {parts : List Segment} {before after : Expansion}
    (h : expandSegments lookup maxDepth first parts before = .ok after)
    (hchecked : checkedPieces lookup maxDepth first parts ≠ []) :
    ∃ middle, before.Writes (checkedPieces lookup maxDepth first parts) middle ∧
      middle.text.utf8ByteSize ≤ maxExpandedLength := by
  induction parts generalizing first before with
  | nil => exact absurd rfl hchecked
  | cons segment rest ih =>
      cases segment with
      | literal text =>
          rw [expandSegments_literal] at h
          obtain ⟨middle, hcheck, h⟩ := except_bind_eq_ok h
          have hwrites := Writes.of_append before
            (.literal (AnchoredLiteral.ofText text.toList first rest.isEmpty)) rfl
          have hsize := size_le_of_checkLength hcheck
          obtain rfl := eq_of_checkLength hcheck
          by_cases hrest : checkedPieces lookup maxDepth false rest = []
          · rw [checkedPieces, hrest]
            exact ⟨_, hwrites, hsize⟩
          · obtain ⟨last, hlast, hlength⟩ := ih h hrest
            exact ⟨last, hwrites.trans hlast, hlength⟩
      | token token =>
          rw [expandSegments_token] at h
          obtain ⟨middle, htoken, h⟩ := except_bind_eq_ok h
          by_cases hrest : checkedPieces lookup maxDepth false rest = []
          · rw [checkedPieces_last first hrest] at hchecked ⊢
            exact expandToken_checked htoken hchecked
          · rw [checkedPieces_token first hrest]
            obtain ⟨last, hlast, hlength⟩ := ih h hrest
            exact ⟨last, (expandToken_writes htoken).trans hlast, hlength⟩

/-- An expansion that is refused for its length has passed the limit up to its last check. -/
theorem expandSegments_overflows_checked {first : Bool} {parts : List Segment}
    {before : Expansion} {problem : RegexProblem}
    (h : expandSegments lookup maxDepth first parts before = .error (.invalidRegex problem)) :
    (∃ origin, problem = .tooLong maxExpandedLength origin) ∧
      checkedPieces lookup maxDepth first parts ≠ [] ∧
      before.Overflows (checkedPieces lookup maxDepth first parts) := by
  induction parts generalizing first before with
  | nil => cases h
  | cons segment rest ih =>
      cases segment with
      | literal text =>
          have hwrites := Writes.of_append before
            (.literal (AnchoredLiteral.ofText text.toList first rest.isEmpty)) rfl
          rw [expandSegments_literal] at h
          rcases except_bind_eq_error h with hcheck | ⟨middle, hcheck, hrest⟩
          · exact ⟨tooLong_of_checkLength hcheck, List.cons_ne_nil _ _,
              (Overflows.of_checkLength hwrites hcheck).mono (List.prefix_append _ _)⟩
          · obtain rfl := eq_of_checkLength hcheck
            obtain ⟨horigin, -, hlong⟩ := ih hrest
            exact ⟨horigin, List.cons_ne_nil _ _, .behind hwrites hlong⟩
      | token token =>
          rw [expandSegments_token] at h
          rcases except_bind_eq_error h with htoken | ⟨middle, htoken, hafter⟩
          · obtain ⟨hne, hlong⟩ := expandToken_overflows_checked htoken
            refine ⟨expandToken_tooLong htoken, ?_⟩
            by_cases hrest : checkedPieces lookup maxDepth false rest = []
            · rw [checkedPieces_last first hrest]
              exact ⟨hne, hlong⟩
            · rw [checkedPieces_token first hrest]
              exact ⟨List.append_ne_nil_of_right_ne_nil _ hrest, hlong.mono
                ((checkedInside_isPrefix lookup maxDepth token).trans (List.prefix_append _ _))⟩
          · obtain ⟨horigin, hne, hlong⟩ := ih hafter
            rw [checkedPieces_token first hne]
            exact ⟨horigin, List.append_ne_nil_of_right_ne_nil _ hne,
              .behind (expandToken_writes htoken) hlong⟩

theorem byteSize_of_writes {pieces : List Piece} {after : Expansion}
    (h : start.Writes pieces after) : after.text.utf8ByteSize = Piece.byteLength pieces := by
  have htext : after.text = String.ofList (Piece.textFrom 0 pieces) := by
    rw [← String.toList_inj, h.1]
    simp [start]
  rw [htext, Piece.byteLength]

theorem byteSize_ofText {text : String} {expansion : Expansion}
    (h : ofText lookup maxDepth text = .ok expansion) :
    expansion.text.utf8ByteSize = Piece.byteLength (pieces lookup maxDepth text) := by
  have hwrites := ofText_writes h
  exact byteSize_of_writes (by simpa [Writes, start] using hwrites)

theorem byteLength_checked_le {text : String} {expansion : Expansion}
    (h : ofText lookup maxDepth text = .ok expansion) :
    Piece.byteLength (checkedPieces lookup maxDepth true (segments text)) ≤
      maxExpandedLength := by
  by_cases hnil : checkedPieces lookup maxDepth true (segments text) = []
  · rw [hnil]
    decide
  · obtain ⟨middle, hwrites, hsize⟩ := expandSegments_checked (expandSegments_of_ofText h) hnil
    rwa [byteSize_of_writes hwrites] at hsize

theorem lt_byteLength_checked {text : String} {problem : RegexProblem}
    (h : ofText lookup maxDepth text = .error (.invalidRegex problem)) :
    (∃ origin, problem = .tooLong maxExpandedLength origin) ∧
      maxExpandedLength <
        Piece.byteLength (checkedPieces lookup maxDepth true (segments text)) := by
  unfold ofText at h
  split at h
  · cases h
  · obtain ⟨horigin, -, hlong⟩ := expandSegments_overflows_checked h
    have hlength := hlong.lt_byteSize
    simp only [start, Array.size_empty, String.empty_append] at hlength
    exact ⟨horigin, hlength⟩

end Expansion

namespace CompiledPattern

open Expansion

variable {lookup : Lookup} {maxDepth : Nat} {text : String}

theorem compile_tooLong_iff {limit : Nat} {origin : Option String} :
    compile lookup maxDepth text = .error (.invalidRegex (.tooLong limit origin)) ↔
      ofText lookup maxDepth text = .error (.invalidRegex (.tooLong limit origin)) := by
  unfold compile
  cases ofText lookup maxDepth text with
  | error e => simp
  | ok expansion =>
      dsimp only
      cases Regex.ofText? expansion.text.toList with
      | error fault => simp
      | ok regex =>
          dsimp only
          split <;> simp

/--
The limit holds for the pieces up to the last check, and what passes it there is refused
for its length.  A text that ends with a literal is checked as a whole; behind the last
check of a token at the end, one character more is written.
-/
theorem limit_binds_checked_pieces (lookup : Lookup) (maxDepth : Nat) (text : String) :
    let checked := checkedPieces lookup maxDepth true (segments text)
    checked <+: pieces lookup maxDepth text ∧
      (∀ expansion, ofText lookup maxDepth text = .ok expansion →
        expansion.text.utf8ByteSize = Piece.byteLength (pieces lookup maxDepth text) ∧
          Piece.byteLength checked ≤ maxExpandedLength) ∧
      (Resolvable lookup maxDepth text →
        ((∃ origin, compile lookup maxDepth text =
            .error (.invalidRegex (.tooLong maxExpandedLength origin))) ↔
          maxExpandedLength < Piece.byteLength checked)) ∧
      (∀ literal, (segments text).getLast? = some (.literal literal) →
        pieces lookup maxDepth text = checked) ∧
      (∀ token, (segments text).getLast? = some (.token token) → 0 < maxDepth →
        segments ((lookup token.name).getD "") ≠ [] →
          pieces lookup maxDepth text = checked ++ [.closer]) := by
  intro checked
  refine ⟨checkedPieces_isPrefix true _, fun expansion h => ⟨byteSize_ofText h,
    byteLength_checked_le h⟩, fun hresolvable => ⟨fun ⟨origin, h⟩ => ?_, fun hlong => ?_⟩,
    fun literal hlast => checkedPieces_of_literal true hlast,
    fun token hlast hdepth hfragment => ?_⟩
  · exact (lt_byteLength_checked (compile_tooLong_iff.1 h)).2
  · have htext : text ≠ "" := by
      rintro rfl
      have hnone : checked = [] := by
        have hsegments : segments "" = [] := by decide +kernel
        change checkedPieces lookup maxDepth true (segments "") = []
        rw [hsegments, checkedPieces]
      rw [hnone] at hlong
      exact absurd hlong (by decide)
    cases h : ofText lookup maxDepth text with
    | ok expansion => exact absurd (byteLength_checked_le h) (Nat.not_le.2 hlong)
    | error e =>
        have hcompile : compile lookup maxDepth text = .error e := by rw [compile, h]
        obtain ⟨problem, rfl⟩ := compile_error_of_resolvable htext hresolvable hcompile
        obtain ⟨⟨origin, rfl⟩, -⟩ := lt_byteLength_checked h
        exact ⟨origin, hcompile⟩
  · cases maxDepth with
    | zero => exact absurd hdepth (Nat.lt_irrefl 0)
    | succ depth => exact checkedPieces_of_token true hlast hfragment

open Doubling in
theorem limit_binds_checked_pieces_doubled :
    let lookup := (registry 17).lookup?
    let checked := fun text => checkedPieces lookup defaultMaxDepth true (segments text)
    (∃ expansion, ofText lookup defaultMaxDepth "%{L17}%{L0}%{L0}" = .ok expansion ∧
      expansion.text.utf8ByteSize =
        Piece.byteLength (pieces lookup defaultMaxDepth "%{L17}%{L0}%{L0}") ∧
      Piece.byteLength (checked "%{L17}%{L0}%{L0}") ≤ maxExpandedLength) ∧
    Resolvable lookup defaultMaxDepth "%{L17}%{L0}%{L0}" ∧
    ¬ maxExpandedLength < Piece.byteLength (checked "%{L17}%{L0}%{L0}") ∧
    pieces lookup defaultMaxDepth "%{L1}x" = checked "%{L1}x" ∧
    pieces lookup defaultMaxDepth "x%{L1}" = checked "x%{L1}" ++ [.closer] := by
  intro lookup checked
  obtain ⟨pattern, hcompile, -⟩ := exists_compiled_seventeen
  obtain ⟨expansion, hexpand, -⟩ := compile_inv hcompile
  have hresolvable := resolvable_of_compile hcompile
  obtain ⟨-, hlength, hrefused, -⟩ :=
    limit_binds_checked_pieces lookup defaultMaxDepth "%{L17}%{L0}%{L0}"
  obtain ⟨-, -, -, hliteral, -⟩ := limit_binds_checked_pieces lookup defaultMaxDepth "%{L1}x"
  obtain ⟨-, -, -, -, htoken⟩ := limit_binds_checked_pieces lookup defaultMaxDepth "x%{L1}"
  refine ⟨⟨expansion, hexpand, hlength expansion hexpand⟩, hresolvable, fun hlong => ?_,
    hliteral "x" (by decide +kernel),
    htoken (.ofName 1 (nameAt 1)) (by decide +kernel) (by decide) (by decide +kernel)⟩
  obtain ⟨origin, hrefusal⟩ := (hrefused hresolvable).2 hlong
  rw [hcompile] at hrefusal
  cases hrefusal

/-- Behind the last check the empty fragment is written, twice here, and the limit is passed. -/
theorem exists_compiled_beyond_limit :
    ∃ pattern, compile (Doubling.registry 17).lookup? defaultMaxDepth "%{L17}%{L0}%{L0}" =
      .ok pattern ∧ maxExpandedLength < pattern.expanded.utf8ByteSize := by
  obtain ⟨pattern, hcompile, hsize⟩ := Doubling.exists_compiled_seventeen
  refine ⟨pattern, hcompile, ?_⟩
  rw [hsize]
  decide

end CompiledPattern

end LogPattern
