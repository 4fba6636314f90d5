import LogPattern.Pattern.Expansion
import LogPattern.Proofs.Success

/-!
# The pieces of an expanded text

An expanded text has pieces of four kinds, by what wrote them: a literal of the pattern
text, raw text of a fragment, the opener of a token's group, and its closer.  Numbers
of fields are no part of a piece; they follow from the pieces before it.
-/

namespace LogPattern

def Token.fieldEntry (token : Token) : List Field :=
  (token.field.map fun name => ⟨name, token.raw, token.hint⟩).toList

/-- A piece of an expanded text. -/
inductive Piece where
  | literal (content : AnchoredLiteral)
  /-- Text of a fragment outside its tokens, with its groups made plain. -/
  | fragment (text : List Char)
  | opener (token : Token)
  | closer
deriving DecidableEq, Repr

namespace Piece

def fields : Piece → List Field
  | .opener token => token.fieldEntry
  | _ => []

def text (index : Nat) : Piece → List Char
  | .literal content => content.regexText
  | .fragment text => text
  | .opener token =>
      match token.field with
      | none => ['(', '?', ':']
      | some _ => "(?P<f".toList ++ (toString index).toList ++ ['>']
  | .closer => [')']

def isFragment : Piece → Bool
  | .fragment _ => true
  | _ => false

def fieldsOf (pieces : List Piece) : List Field := pieces.flatMap fields

def textFrom (index : Nat) : List Piece → List Char
  | [] => []
  | piece :: rest => piece.text index ++ textFrom (index + piece.fields.length) rest

@[simp] theorem fieldsOf_nil : fieldsOf [] = [] := rfl

@[simp] theorem fieldsOf_append (front back : List Piece) :
    fieldsOf (front ++ back) = fieldsOf front ++ fieldsOf back := by
  simp [fieldsOf]

@[simp] theorem fieldsOf_cons (piece : Piece) (rest : List Piece) :
    fieldsOf (piece :: rest) = piece.fields ++ fieldsOf rest := by
  simp [fieldsOf]

@[simp] theorem textFrom_nil (index : Nat) : textFrom index [] = [] := rfl

@[simp] theorem textFrom_cons (index : Nat) (piece : Piece) (rest : List Piece) :
    textFrom index (piece :: rest) =
      piece.text index ++ textFrom (index + piece.fields.length) rest := rfl

theorem textFrom_append (index : Nat) (front back : List Piece) :
    textFrom index (front ++ back) =
      textFrom index front ++ textFrom (index + (fieldsOf front).length) back := by
  induction front generalizing index with
  | nil => simp
  | cons piece front ih => simp [ih, Nat.add_assoc]

end Piece

namespace Expansion

/-! ## The pieces that an expansion writes -/

def fragmentPieces (ofToken : Token → List Piece) : Segment → List Piece
  | .literal text => [.fragment (neutralizeGroups text.toList)]
  | .token inner => ofToken inner

/-- The pieces of a token, with references followed down to `depth`. -/
def tokenPieces (lookup : Lookup) : (depth : Nat) → Token → List Piece
  | 0, _ => []
  | depth + 1, token =>
      .opener token ::
        (segments ((lookup token.name).getD "")).flatMap
          (fragmentPieces (tokenPieces lookup depth)) ++ [.closer]

def segmentPieces (lookup : Lookup) (depth : Nat) (first : Bool) : List Segment → List Piece
  | [] => []
  | .literal text :: rest =>
      .literal (AnchoredLiteral.ofText text.toList first rest.isEmpty) ::
        segmentPieces lookup depth false rest
  | .token token :: rest =>
      tokenPieces lookup depth token ++ segmentPieces lookup depth false rest

def pieces (lookup : Lookup) (depth : Nat) (text : String) : List Piece :=
  segmentPieces lookup depth true (segments text)

/-- The one expansion goes over into the other by writing pieces. -/
def Writes (before : Expansion) (pieces : List Piece) (after : Expansion) : Prop :=
  after.text.toList = before.text.toList ++ Piece.textFrom before.fields.size pieces ∧
    after.fields.toList = before.fields.toList ++ Piece.fieldsOf pieces

namespace Writes

theorem refl (expansion : Expansion) : expansion.Writes [] expansion := by simp [Writes]

theorem trans {a b c : Expansion} {front back : List Piece} (h₁ : a.Writes front b)
    (h₂ : b.Writes back c) : a.Writes (front ++ back) c := by
  have hsize : b.fields.size = a.fields.size + (Piece.fieldsOf front).length := by
    rw [← Array.length_toList, h₁.2, List.length_append, Array.length_toList]
  constructor
  · rw [h₂.1, h₁.1, hsize, Piece.textFrom_append, List.append_assoc]
  · rw [h₂.2, h₁.2, Piece.fieldsOf_append, List.append_assoc]

theorem of_append (expansion : Expansion) (piece : Piece) (hfields : piece.fields = []) :
    expansion.Writes [piece] (expansion.append (piece.text expansion.fields.size)) := by
  simp [Writes, append, hfields]

theorem openToken (expansion : Expansion) (token : Token) :
    expansion.Writes [.opener token] (expansion.openToken token) := by
  unfold Expansion.openToken
  cases hfield : token.field with
  | none =>
      have hentry : (Piece.opener token).fields = [] := by
        simp [Piece.fields, Token.fieldEntry, hfield]
      simpa [Piece.text, hfield] using of_append expansion (.opener token) hentry
  | some name =>
      simp [Writes, append, Piece.text, Piece.fields, Token.fieldEntry, hfield]

end Writes

theorem eq_of_checkLength {chain : List String} {expansion after : Expansion}
    (h : expansion.checkLength chain = .ok after) : after = expansion := by
  unfold checkLength at h
  split at h <;> cases h
  rfl

/-- Segments that are expanded one after the other write their pieces one after the other. -/
theorem writes_of_foldlM {step : Expansion → Segment → Except CompileError Expansion}
    {write : Segment → List Piece}
    (hstep : ∀ {before segment after}, step before segment = .ok after →
      before.Writes (write segment) after)
    {parts : List Segment} {before after : Expansion}
    (h : parts.foldlM step before = .ok after) : before.Writes (parts.flatMap write) after := by
  induction parts generalizing before with
  | nil =>
      cases h
      exact Writes.refl _
  | cons segment parts ih =>
      rw [List.foldlM_cons] at h
      obtain ⟨middle, hfirst, h⟩ := except_bind_eq_ok h
      rw [List.flatMap_cons]
      exact (hstep hfirst).trans (ih h)

theorem expandToken_inv {lookup : Lookup} {maxDepth position depth : Nat}
    {chain : List String} {token : Token} {before after : Expansion}
    (h : expandToken lookup maxDepth position depth chain token before = .ok after) :
    ∃ fragment rest filled, lookup token.name = some fragment ∧ depth = rest + 1 ∧
      after = filled.append [')'] ∧
      (segments fragment).foldlM (fun expansion segment =>
        match segment with
        | .literal text =>
            (expansion.append (neutralizeGroups text.toList)).checkLength (token.name :: chain)
        | .token inner =>
            (expandToken lookup maxDepth position rest (token.name :: chain) inner
              expansion).bind (checkLength (token.name :: chain))) (before.openToken token) =
        .ok filled := by
  cases depth with
  | zero =>
      rw [expandToken] at h
      split at h
      · cases h
      · split at h <;> cases h
  | succ rest =>
      rw [expandToken] at h
      split at h
      · cases h
      · next fragment hfragment =>
          have hlookup : lookup token.name = some fragment := by
            split at hfragment
            · exact hfragment
            · cases hfragment
          split at h
          · cases h
          · obtain ⟨filled, hfold, rfl⟩ := except_map_eq_ok h
            exact ⟨fragment, rest, filled, hlookup, rfl, rfl, hfold⟩

theorem expandToken_writes {lookup : Lookup} {maxDepth position depth : Nat}
    {chain : List String} {token : Token} {before after : Expansion}
    (h : expandToken lookup maxDepth position depth chain token before = .ok after) :
    before.Writes (tokenPieces lookup depth token) after := by
  induction depth generalizing chain token before after with
  | zero =>
      obtain ⟨_, rest, _, -, hdepth, -⟩ := expandToken_inv h
      omega
  | succ depth ih =>
      obtain ⟨fragment, rest, filled, hlookup, hdepth, rfl, hfold⟩ := expandToken_inv h
      obtain rfl : depth = rest := by omega
      have hinner : (before.openToken token).Writes
          ((segments fragment).flatMap (fragmentPieces (tokenPieces lookup depth))) filled := by
        refine writes_of_foldlM (fun {first segment last} hstep => ?_) hfold
        cases segment with
        | literal text =>
            rw [eq_of_checkLength hstep]
            exact Writes.of_append first (.fragment _) rfl
        | token inner =>
            obtain ⟨expanded, htoken, hcheck⟩ := except_bind_eq_ok hstep
            rw [eq_of_checkLength hcheck]
            exact ih htoken
      have hcloser : filled.Writes [.closer] (filled.append [')']) :=
        Writes.of_append filled .closer rfl
      simpa [tokenPieces, hlookup] using
        ((Writes.openToken before token).trans hinner).trans hcloser

theorem expandSegments_literal (lookup : Lookup) (maxDepth : Nat) (first : Bool) (text : String)
    (rest : List Segment) (before : Expansion) :
    expandSegments lookup maxDepth first (.literal text :: rest) before =
      ((before.append (AnchoredLiteral.ofText text.toList first rest.isEmpty).regexText).checkLength
        []).bind (expandSegments lookup maxDepth false rest) := by
  rw [expandSegments]
  split <;> next hcheck => rw [hcheck]; rfl

theorem expandSegments_token (lookup : Lookup) (maxDepth : Nat) (first : Bool) (token : Token)
    (rest : List Segment) (before : Expansion) :
    expandSegments lookup maxDepth first (.token token :: rest) before =
      (expandToken lookup maxDepth token.offset maxDepth [] token before).bind
        (expandSegments lookup maxDepth false rest) := by
  rw [expandSegments]
  split <;> next htoken => rw [htoken]; rfl

theorem ofText_of_ne_empty {lookup : Lookup} {maxDepth : Nat} {text : String} (h : text ≠ "") :
    ofText lookup maxDepth text = expandSegments lookup maxDepth true (segments text) .start := by
  rw [ofText, if_neg (by simpa using h)]

theorem expandSegments_of_ofText {lookup : Lookup} {maxDepth : Nat} {text : String}
    {expansion : Expansion} (h : ofText lookup maxDepth text = .ok expansion) :
    expandSegments lookup maxDepth true (segments text) .start = .ok expansion := by
  rw [ofText] at h
  split at h
  · cases h
  · exact h

theorem expandSegments_writes {lookup : Lookup} {maxDepth : Nat} {first : Bool}
    {parts : List Segment} {before after : Expansion}
    (h : expandSegments lookup maxDepth first parts before = .ok after) :
    before.Writes (segmentPieces lookup maxDepth first parts) after := by
  induction parts generalizing first before with
  | nil =>
      cases h
      exact Writes.refl _
  | cons segment rest ih =>
      cases segment with
      | literal text =>
          rw [expandSegments_literal] at h
          obtain ⟨middle, hcheck, hrest⟩ := except_bind_eq_ok h
          obtain rfl := eq_of_checkLength hcheck
          have hliteral := Writes.of_append before
            (.literal (AnchoredLiteral.ofText text.toList first rest.isEmpty)) rfl
          exact hliteral.trans (ih hrest)
      | token token =>
          rw [expandSegments_token] at h
          obtain ⟨middle, htoken, hrest⟩ := except_bind_eq_ok h
          exact (expandToken_writes htoken).trans (ih hrest)

/-- The expanded text and the schema are those of the pieces. -/
theorem ofText_writes {lookup : Lookup} {maxDepth : Nat} {text : String} {expansion : Expansion}
    (h : ofText lookup maxDepth text = .ok expansion) :
    expansion.text.toList = Piece.textFrom 0 (pieces lookup maxDepth text) ∧
      expansion.fields.toList = Piece.fieldsOf (pieces lookup maxDepth text) := by
  simpa [Writes, start, pieces] using expandSegments_writes (expandSegments_of_ofText h)

end Expansion

end LogPattern
