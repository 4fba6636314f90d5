import LogPattern.Proofs.Pattern.FirstProblem

/-!
# The order of the fields

The tokens of a text with those of their fragments below them, and so on, make a forest.
The schema of a compiled pattern lists its fields as they come in this forest, each token
before those below it and these before those beside it, and the openers of their groups
stand in the expanded text in the same order, each once and with its number.
-/

namespace LogPattern

/-- Tokens in a row, each with the tokens of its fragment below it. -/
inductive TokenForest where
  | nil
  | cons (token : Token) (below beside : TokenForest)
deriving Repr

namespace TokenForest

/-- The tokens, each before those below it, and these before those beside it. -/
def preorder : TokenForest → List Token
  | nil => []
  | cons token below beside => token :: (below.preorder ++ beside.preorder)

def schema (forest : TokenForest) : List Field := forest.preorder.flatMap Token.fieldEntry

end TokenForest

/-- The tokens in a row, with their names followed to the end, make the forest. -/
inductive Unfolds (lookup : Lookup) : (row : List Token) → TokenForest → Prop
  | nil : Unfolds lookup [] .nil
  | cons {token : Token} {fragment : String} {row : List Token} {below beside : TokenForest}
      (hfragment : lookup token.name = some fragment)
      (hbelow : Unfolds lookup (tokens fragment) below) (hbeside : Unfolds lookup row beside) :
      Unfolds lookup (token :: row) (.cons token below beside)

theorem Unfolds.unique {lookup : Lookup} {row : List Token} {forest other : TokenForest}
    (h : Unfolds lookup row forest) (hother : Unfolds lookup row other) : other = forest := by
  induction h generalizing other with
  | nil =>
      cases hother
      rfl
  | cons hfragment _ _ ihBelow ihBeside =>
      cases hother with
      | cons hfragment' hbelow' hbeside' =>
          obtain rfl := Option.some.inj (hfragment.symm.trans hfragment')
          rw [ihBelow hbelow', ihBeside hbeside']

theorem mem_filterMap_token? {parts : List Segment} {token : Token} :
    token ∈ parts.filterMap Segment.token? ↔ .token token ∈ parts := by
  rw [List.mem_filterMap]
  constructor
  · rintro ⟨segment, hsegment, htoken⟩
    cases segment with
    | literal text => cases htoken
    | token inner =>
        cases htoken
        exact hsegment
  · intro h
    exact ⟨.token token, h, rfl⟩

namespace Piece

/-! ## Openers among pieces -/

def opened? : Piece → Option Token
  | opener token => some token
  | _ => none

def fieldOpener (index : Nat) : List Char := "(?P<f".toList ++ (toString index).toList ++ ['>']

/-- The texts of pieces behind `index` fields, each with the fields that its piece enters. -/
def written (index : Nat) : List Piece → List (List Char × List Field)
  | [] => []
  | piece :: rest =>
      (piece.text index, piece.fields) :: written (index + piece.fields.length) rest

theorem flatMap_written (index : Nat) (pieces : List Piece) :
    (written index pieces).flatMap Prod.fst = textFrom index pieces := by
  induction pieces generalizing index with
  | nil => rfl
  | cons piece rest ih => rw [written, List.flatMap_cons, ih, textFrom_cons]

theorem filter_written (index : Nat) (pieces : List Piece) :
    (written index pieces).filter (fun part => !part.2.isEmpty) =
      ((fieldsOf pieces).zipIdx index).map fun entry => (fieldOpener entry.2, [entry.1]) := by
  induction pieces generalizing index with
  | nil => rfl
  | cons piece rest ih =>
      rcases piece.fields_cases with hnone | ⟨token, entry, rfl, hfield, hentry⟩
      · simpa [written, hnone] using ih index
      · have htext : (opener token).text index = fieldOpener index := by
          obtain ⟨name, hname⟩ := Option.isSome_iff_exists.1 hfield
          rw [text, hname]
          rfl
        simpa [written, hentry, htext] using ih (index + 1)

theorem flatMap_opened? (pieces : List Piece) :
    (pieces.filterMap opened?).flatMap Token.fieldEntry = fieldsOf pieces := by
  induction pieces with
  | nil => rfl
  | cons piece rest ih =>
      cases piece with
      | opener token => simp [opened?, fields, ih]
      | literal content => exact ih
      | fragment text => exact ih
      | closer => exact ih

end Piece

namespace Expansion

/-! ## Openers of an expansion -/

variable {lookup : Lookup} {maxDepth position depth : Nat}

def openedBy (lookup : Lookup) (depth : Nat) (token : Token) : List Token :=
  (tokenPieces lookup depth token).filterMap Piece.opened?

theorem opened_fragmentPieces (lookup : Lookup) (depth : Nat) (parts : List Segment) :
    (parts.flatMap (fragmentPieces (tokenPieces lookup depth))).filterMap Piece.opened? =
      (parts.filterMap Segment.token?).flatMap (openedBy lookup depth) := by
  induction parts with
  | nil => rfl
  | cons segment rest ih =>
      rw [List.flatMap_cons, List.filterMap_append, ih]
      cases segment with
      | literal text => rfl
      | token inner => rfl

theorem opened_segmentPieces (lookup : Lookup) (depth : Nat) (first : Bool)
    (parts : List Segment) :
    (segmentPieces lookup depth first parts).filterMap Piece.opened? =
      (parts.filterMap Segment.token?).flatMap (openedBy lookup depth) := by
  induction parts generalizing first with
  | nil => rfl
  | cons segment rest ih =>
      cases segment with
      | literal text => exact ih false
      | token inner =>
          rw [segmentPieces, List.filterMap_append, ih]
          rfl

theorem openedBy_succ (lookup : Lookup) (depth : Nat) {token : Token} {fragment : String}
    (hfragment : lookup token.name = some fragment) :
    openedBy lookup (depth + 1) token =
      token :: (tokens fragment).flatMap (openedBy lookup depth) := by
  rw [openedBy, tokenPieces, hfragment, List.filterMap_append, List.filterMap_cons,
    Option.getD_some, opened_fragmentPieces]
  simp [Piece.opened?, tokens]

theorem exists_unfolds {row : List Token} (h : ∀ token ∈ row, ∃ fragment below,
    lookup token.name = some fragment ∧ Unfolds lookup (tokens fragment) below ∧
      openedBy lookup depth token = token :: below.preorder) :
    ∃ forest, Unfolds lookup row forest ∧
      row.flatMap (openedBy lookup depth) = forest.preorder := by
  induction row with
  | nil => exact ⟨.nil, .nil, rfl⟩
  | cons token row ih =>
      obtain ⟨fragment, below, hfragment, hbelow, hopened⟩ := h token List.mem_cons_self
      obtain ⟨beside, hbeside, hrow⟩ := ih fun other hother =>
        h other (List.mem_cons_of_mem _ hother)
      refine ⟨.cons token below beside, .cons hfragment hbelow hbeside, ?_⟩
      rw [List.flatMap_cons, hopened, hrow]
      rfl

/-- A token that is expanded opens its own group and then those of the tokens below it. -/
theorem unfolds_of_expandToken {chain : List String} {token : Token} {before after : Expansion}
    (h : expandToken lookup maxDepth position depth chain token before = .ok after) :
    ∃ fragment below, lookup token.name = some fragment ∧
      Unfolds lookup (tokens fragment) below ∧
      openedBy lookup depth token = token :: below.preorder := by
  induction depth generalizing chain token before after with
  | zero =>
      obtain ⟨_, rest, _, -, hdepth, -⟩ := expandToken_inv h
      omega
  | succ depth ih =>
      obtain ⟨fragment, rest, filled, hfragment, hdepth, -, hfold⟩ := expandToken_inv h
      obtain rfl : depth = rest := by omega
      obtain ⟨below, hbelow, hopened⟩ : ∃ below, Unfolds lookup (tokens fragment) below ∧
          (tokens fragment).flatMap (openedBy lookup depth) = below.preorder := by
        refine exists_unfolds fun inner hinner => ?_
        obtain ⟨s, s', hs⟩ := exists_ok_of_foldlM hfold (mem_filterMap_token?.1 hinner)
        obtain ⟨expanded, hexpanded, -⟩ := except_bind_eq_ok hs
        exact ih hexpanded
      refine ⟨fragment, below, hfragment, hbelow, ?_⟩
      rw [openedBy_succ lookup depth hfragment, hopened]

theorem unfolds_of_ofText {text : String} {expansion : Expansion}
    (h : ofText lookup maxDepth text = .ok expansion) :
    ∃ forest, Unfolds lookup (tokens text) forest ∧
      (pieces lookup maxDepth text).filterMap Piece.opened? = forest.preorder := by
  rw [pieces, opened_segmentPieces]
  refine exists_unfolds fun token htoken => ?_
  obtain ⟨s, s', hs⟩ :=
    expandSegments_ok (expandSegments_of_ofText h) (mem_filterMap_token?.1 htoken)
  exact unfolds_of_expandToken hs

end Expansion

namespace CompiledPattern

open Expansion

/-- A compiled pattern has the schema and the openers of a forest that its tokens unfold to. -/
theorem unfolds_of_compile {lookup : Lookup} {maxDepth : Nat} {text : String}
    {pattern : CompiledPattern} (h : compile lookup maxDepth text = .ok pattern) :
    ∃ forest, Unfolds lookup (tokens text) forest ∧ pattern.fields = forest.schema ∧
      (pieces lookup maxDepth text).filterMap Piece.opened? = forest.preorder := by
  obtain ⟨expansion, hexpand, -, hfields, -⟩ := compile_inv h
  obtain ⟨forest, hunfolds, hopened⟩ := unfolds_of_ofText hexpand
  refine ⟨forest, hunfolds, ?_, hopened⟩
  rw [hfields, (ofText_writes hexpand).2, TokenForest.schema, ← hopened, Piece.flatMap_opened?]

/--
The schema of a compiled pattern lists the fields of the forest of its tokens in pre-order.
The expanded text is written by pieces, of which the openers are those of the tokens of this
forest in pre-order; and the pieces that enter a field are, one by one, the opener with
the number `0` for the first field, that with `1` for the second one, and so on to the last.
-/
theorem fields_in_preorder {lookup : Lookup} {maxDepth : Nat} {text : String}
    {pattern : CompiledPattern} (h : compile lookup maxDepth text = .ok pattern) :
    ∃ forest, (∀ other, Unfolds lookup (tokens text) other ↔ other = forest) ∧
      pattern.fields = forest.schema ∧
      (pieces lookup maxDepth text).filterMap Piece.opened? = forest.preorder ∧
      pattern.expanded.toList =
        (Piece.written 0 (pieces lookup maxDepth text)).flatMap Prod.fst ∧
      (Piece.written 0 (pieces lookup maxDepth text)).filter (fun part => !part.2.isEmpty) =
        pattern.fields.zipIdx.map fun entry => (Piece.fieldOpener entry.2, [entry.1]) := by
  obtain ⟨forest, hunfolds, hschema, hopened⟩ := unfolds_of_compile h
  have hunique : ∀ other, Unfolds lookup (tokens text) other ↔ other = forest := by
    intro other
    constructor
    · exact hunfolds.unique
    · rintro rfl
      exact hunfolds
  obtain ⟨expansion, hexpand, hexpanded, hfields, -⟩ := compile_inv h
  obtain ⟨htext, hentered⟩ := ofText_writes hexpand
  refine ⟨forest, hunique, hschema, hopened, ?_, ?_⟩
  · rw [hexpanded, htext, Piece.flatMap_written]
  · rw [Piece.filter_written, hfields, hentered]

/-- A field around fields of two fragments, one of them in a token without a field. -/
theorem fields_in_preorder_nested :
    let registry := (Registry.empty.registerAll
      [⟨"A", "(a)%{B:front}%{C}"⟩, ⟨"B", "b"⟩, ⟨"C", "%{B:inner:int}"⟩]).registry
    let text := "(%{A:whole}%{B:}%{B:last}"
    ∃ pattern forest, compile registry.lookup? defaultMaxDepth text = .ok pattern ∧
      Unfolds registry.lookup? (tokens text) forest ∧ pattern.fields = forest.schema ∧
      pattern.fields = [⟨"whole", "%{A:whole}", none⟩, ⟨"front", "%{B:front}", none⟩,
        ⟨"inner", "%{B:inner:int}", some "int"⟩, ⟨"last", "%{B:last}", none⟩] ∧
      pattern.expanded = "\\((?P<f0>(?:a)(?P<f1>b)(?:(?P<f2>b)))(?:b)(?P<f3>b)" := by
  intro registry text
  obtain ⟨pattern, hpattern, htest⟩ :
      ∃ pattern, compile registry.lookup? defaultMaxDepth text = .ok pattern ∧ decide (
        pattern.fields = [⟨"whole", "%{A:whole}", none⟩, ⟨"front", "%{B:front}", none⟩,
          ⟨"inner", "%{B:inner:int}", some "int"⟩, ⟨"last", "%{B:last}", none⟩] ∧
        pattern.expanded = "\\((?P<f0>(?:a)(?P<f1>b)(?:(?P<f2>b)))(?:b)(?P<f3>b)") = true :=
    except_exists_ok (by decide +kernel)
  obtain ⟨hfields, hexpanded⟩ := of_decide_eq_true htest
  obtain ⟨forest, hforest, hschema, -⟩ := fields_in_preorder hpattern
  exact ⟨pattern, forest, hpattern, (hforest forest).2 rfl, hschema, hfields, hexpanded⟩

end CompiledPattern

end LogPattern
