import LogPattern.Proofs.Pattern.GroupCount
import LogPattern.Proofs.Pattern.Growth

/-!
# Spelled-out fragments

A table of fragments, given character by character, can be checked by computation: that
every name in it leads only to names in it and not too far, and that every fragment reads
as a whole inside its group.  What the check finds holds of every lookup that answers
with the fragments of the table.
-/

namespace LogPattern

/-! ## Segments of spelled-out texts -/

inductive Cut where
  | literal (text : List Char)
  | token (offset : Nat) (body : List Char)

namespace Cut

def segment : Cut → Segment
  | literal text => .literal (String.ofList text)
  | token offset body => .token (Token.ofBody offset body)

def nameOf (body : List Char) : List Char :=
  match splitAtMark [':'] body with
  | none => body
  | some (name, _) => name

theorem name_ofBody (offset : Nat) (body : List Char) :
    (Token.ofBody offset body).name = String.ofList (nameOf body) := by
  unfold Token.ofBody nameOf
  cases splitAtMark [':'] body with
  | none => rfl
  | some parts =>
      obtain ⟨name, rest⟩ := parts
      dsimp only
      split <;> rfl

def reference? : Cut → Option (List Char)
  | literal _ => none
  | token _ body => some (nameOf body)

def ofLiteral (text : List Char) : List Cut := if text.isEmpty then [] else [literal text]

theorem map_ofLiteral (text : List Char) : (ofLiteral text).map segment = literalSegment text := by
  unfold ofLiteral literalSegment
  split <;> rfl

def listFrom : (steps offset : Nat) → List Char → List Cut
  | 0, _, _ => []
  | steps + 1, offset, text =>
      match splitAtToken text with
      | none => ofLiteral text
      | some (front, body, back) =>
          let start := offset + byteCount front
          ofLiteral front ++
            token start body ::
              listFrom steps (start + (Token.ofBody start body).raw.utf8ByteSize) back

def listOf (text : List Char) : List Cut := listFrom (text.length + 1) 0 text

theorem segmentsFrom_eq {steps : Nat} (done : List Segment) (offset : Nat) (text : List Char)
    (hsteps : text.length < steps) :
    segmentsFrom done offset text = done.reverse ++ (listFrom steps offset text).map segment := by
  induction steps generalizing done offset text with
  | zero => omega
  | succ steps ih =>
      rw [segmentsFrom, listFrom]
      split
      · next hsplit => rw [hsplit, map_ofLiteral]
      · next front body back hsplit =>
          have hlength := length_lt_of_splitAtToken hsplit
          have hsame : (literalSegment front).reverse = literalSegment front := by
            unfold literalSegment
            split <;> rfl
          rw [hsplit, ih _ _ _ (by omega)]
          simp [map_ofLiteral, hsame, segment]

theorem segments_ofList (text : List Char) :
    segments (String.ofList text) = (listOf text).map segment := by
  rw [segments, String.toList_ofList, segmentsFrom_eq [] 0 text (Nat.lt_succ_self _)]
  rfl

theorem mem_mentions_ofList {text : List Char} {name : String} :
    name ∈ mentions (String.ofList text) ↔
      ∃ spelled ∈ (listOf text).filterMap reference?, name = String.ofList spelled := by
  have hreference : Segment.reference? ∘ segment = fun cut => cut.reference?.map String.ofList := by
    funext cut
    cases cut with
    | literal text => rfl
    | token offset body => exact congrArg some (name_ofBody offset body)
  rw [mentions, segments_ofList, List.filterMap_map, hreference, ← List.map_filterMap]
  simp [eq_comm]

def pieces (ofToken : (offset : Nat) → (body : List Char) → List Piece) : Cut → List Piece
  | literal text => [.fragment (neutralizeGroups text)]
  | token offset body => ofToken offset body

theorem fragmentPieces_comp_segment {ofToken : Token → List Piece}
    {ofBody : Nat → List Char → List Piece}
    (h : ∀ offset body, ofToken (Token.ofBody offset body) = ofBody offset body) :
    Expansion.fragmentPieces ofToken ∘ segment = pieces ofBody := by
  funext cut
  cases cut with
  | literal text => simp [Expansion.fragmentPieces, segment, pieces]
  | token offset body => exact h offset body

end Cut

/-! ## Tables -/

/-- Names with their fragments, character by character. -/
abbrev FragmentTable := List (List Char × List Char)

namespace FragmentTable

variable {table : FragmentTable} {lookup : Lookup}

def fragment? (table : FragmentTable) (name : List Char) : Option (List Char) :=
  (table.find? (·.1 = name)).map (·.2)

def Spells (table : FragmentTable) (lookup : Lookup) : Prop :=
  ∀ name, lookup (String.ofList name) = (table.fragment? name).map String.ofList

def cuts (table : FragmentTable) (name : List Char) : List Cut :=
  Cut.listOf ((table.fragment? name).getD [])

theorem Spells.segments_eq (h : table.Spells lookup) (name : List Char) :
    segments ((lookup (String.ofList name)).getD "") = (table.cuts name).map Cut.segment := by
  rw [h name, cuts, ← Cut.segments_ofList]
  cases table.fragment? name <;> rfl

/-! ### Pieces -/

def tokenPieces (table : FragmentTable) :
    (depth offset : Nat) → (body : List Char) → List Piece
  | 0, _, _ => []
  | depth + 1, offset, body =>
      .opener (Token.ofBody offset body) ::
        (table.cuts (Cut.nameOf body)).flatMap (Cut.pieces (table.tokenPieces depth)) ++ [.closer]

def contentPieces (table : FragmentTable) (depth : Nat) (name : List Char) : List Piece :=
  (table.cuts name).flatMap (Cut.pieces (table.tokenPieces depth))

theorem Spells.tokenPieces_eq (h : table.Spells lookup) (depth offset : Nat) (body : List Char) :
    Expansion.tokenPieces lookup depth (Token.ofBody offset body) =
      table.tokenPieces depth offset body := by
  induction depth generalizing offset body with
  | zero => rfl
  | succ depth ih =>
      have hpieces := Cut.fragmentPieces_comp_segment ih
      rw [Expansion.tokenPieces, tokenPieces, Cut.name_ofBody, h.segments_eq, List.flatMap_map]
      exact congrArg (fun f => _ :: (table.cuts _).flatMap f ++ _) hpieces

theorem Spells.contentPieces_eq (h : table.Spells lookup) (depth : Nat) (name : List Char) :
    Expansion.contentPieces lookup depth (String.ofList name) = table.contentPieces depth name := by
  have hpieces := Cut.fragmentPieces_comp_segment (h.tokenPieces_eq depth)
  rw [Expansion.contentPieces, contentPieces, h.segments_eq, List.flatMap_map]
  exact congrArg (fun f => (table.cuts _).flatMap f) hpieces

/-! ### References -/

def closes (table : FragmentTable) : (depth : Nat) → (name : List Char) → Bool
  | 0, _ => false
  | depth + 1, name =>
      !name.isEmpty && name.all isNameChar && (table.fragment? name).isSome &&
        ((table.cuts name).filterMap Cut.reference?).all (table.closes depth)

theorem Spells.way_of_closes (h : table.Spells lookup) {depth : Nat} {name : List Char}
    (hcloses : table.closes depth name = true) {way : List String}
    (hway : (String.ofList name :: way).IsChain (RefersTo lookup)) :
    way.length < depth ∧ ∀ other ∈ String.ofList name :: way, IsKnown lookup other := by
  induction depth generalizing name way with
  | zero => cases hcloses
  | succ depth ih =>
      rw [closes, Bool.and_eq_true, Bool.and_eq_true, Bool.and_eq_true] at hcloses
      obtain ⟨⟨⟨hne, hchars⟩, hsome⟩, hmentions⟩ := hcloses
      have hknown : IsKnown lookup (String.ofList name) := by
        refine ⟨?_, ?_⟩
        · rw [isPatternName, String.toList_ofList, hne, hchars]
          rfl
        · rw [h name, Option.isSome_map, hsome]
      cases way with
      | nil => simp [hknown]
      | cons next way =>
          obtain ⟨⟨fragment, hfragment, hnext⟩, hrest⟩ := List.isChain_cons_cons.1 hway
          obtain ⟨text, htext, rfl⟩ : ∃ text, table.fragment? name = some text ∧
              String.ofList text = fragment := by
            rw [h name] at hfragment
            exact Option.map_eq_some_iff.1 hfragment
          obtain ⟨spelled, hspelled, rfl⟩ := Cut.mem_mentions_ofList.1 hnext
          have hcuts : table.cuts name = Cut.listOf text := by rw [cuts, htext]; rfl
          obtain ⟨hlength, hnames⟩ := ih (List.all_eq_true.1 hmentions spelled (hcuts ▸ hspelled)) hrest
          exact ⟨Nat.succ_lt_succ hlength, List.forall_mem_cons.2 ⟨hknown, hnames⟩⟩

/-! ### Reading -/

open Regex

/-- The pieces of a fragment read as a whole inside their group, and the flags can be applied. -/
def readsWhole (pieces : List Piece) : Bool :=
  (Piece.readPieces pieces (.inside false)).any fun final =>
    final.openGroups.length == 1 && decide (final.content.depth + 2 ≤ nestLimit) &&
      final.captures == (Piece.fieldsOf pieces).length &&
      final.content.tree.captures.length == final.captures &&
      (final.content.tree.resolve .initial).toOption.any fun (e, _) =>
        e.lastCapture 0 == final.captures

theorem Spells.exists_countable (h : table.Spells lookup) {depth : Nat} {name : List Char}
    (hreads : readsWhole (table.contentPieces depth name) = true) :
    ∃ final, Countable lookup depth (String.ofList name) final := by
  rw [← h.contentPieces_eq] at hreads
  obtain ⟨final, hread, hfinal⟩ := (Option.any_eq_true _ _).1 hreads
  simp only [Bool.and_eq_true, beq_iff_eq, decide_eq_true_eq] at hfinal
  obtain ⟨⟨⟨⟨hlevel, hshallow⟩, hcounted⟩, hnumbered⟩, hresolved⟩ := hfinal
  obtain ⟨⟨e, modes⟩, hresolve, hlast⟩ := except_exists_ok hresolved
  exact ⟨final, ⟨hread, hlevel, hshallow, hcounted, hnumbered⟩, e, modes, hresolve,
    by simpa using hlast⟩

def check (table : FragmentTable) (depth : Nat) : Bool :=
  table.all fun entry =>
    table.closes (depth + 1) entry.1 && readsWhole (table.contentPieces depth entry.1)

end FragmentTable

end LogPattern
