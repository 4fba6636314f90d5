import LogPattern.Pattern.Compiled
import LogPattern.Proofs.Pattern.Piece
import LogPattern.Proofs.Regex.GroupPlaces
import LogPattern.Registry.Basic
import Mathlib.Data.List.Sort

/-!
# Fields and capturing groups

A compiled pattern has as many groups as fields, but the numbers alone do not say that
each group is that of its field.  They are the same exactly when no group that counts
was opened by raw text of a fragment: openers that tokens wrote are never read in
another order, and neither literals nor closers open groups.
-/

namespace LogPattern

open Regex

namespace Piece

def schemaFrom (index place : Nat) : List Piece → List (Nat × Field)
  | [] => []
  | piece :: rest =>
      piece.fields.map (place, ·) ++
        schemaFrom (index + piece.fields.length) (place + (piece.text index).length) rest

def inFragment (index : Nat) : List Piece → (place : Nat) → Bool
  | [], _ => false
  | piece :: rest, place =>
      if place < (piece.text index).length then piece.isFragment
      else inFragment (index + piece.fields.length) rest (place - (piece.text index).length)

/-- No literal begins behind an open backslash. -/
def Settled (index : Nat) (front : List Char) : List Piece → Prop
  | [] => True
  | piece :: rest =>
      ((∃ content, piece = .literal content) → openBackslash front = false) ∧
        Settled (index + piece.fields.length) (front ++ piece.text index) rest

theorem settled_append {index : Nat} {front : List Char} {first second : List Piece}
    (hfirst : Settled index front first)
    (hsecond : Settled (index + (fieldsOf first).length) (front ++ textFrom index first) second) :
    Settled index front (first ++ second) := by
  induction first generalizing index front with
  | nil => simpa using hsecond
  | cons piece first ih =>
      refine ⟨hfirst.1, ih hfirst.2 ?_⟩
      simpa [Nat.add_assoc] using hsecond

theorem settled_of_noLiteral {index : Nat} {front : List Char} {pieces : List Piece}
    (h : ∀ content, .literal content ∉ pieces) : Settled index front pieces := by
  induction pieces generalizing index front with
  | nil => trivial
  | cons piece rest ih =>
      refine ⟨?_, ih fun content hmem => h content (List.mem_cons_of_mem _ hmem)⟩
      rintro ⟨content, rfl⟩
      exact absurd List.mem_cons_self (h content)

/-! ## Schemas -/

theorem map_snd_schemaFrom (index place : Nat) (pieces : List Piece) :
    (schemaFrom index place pieces).map Prod.snd = fieldsOf pieces := by
  induction pieces generalizing index place with
  | nil => rfl
  | cons piece rest ih => simp [schemaFrom, ih]

theorem fields_cases (piece : Piece) :
    piece.fields = [] ∨ ∃ token entry, piece = .opener token ∧ token.field.isSome ∧
      piece.fields = [entry] := by
  cases piece with
  | opener token =>
      cases hfield : token.field with
      | none => exact .inl (by simp [fields, Token.fieldEntry, hfield])
      | some name =>
          exact .inr ⟨token, ⟨name, token.raw, token.hint⟩, rfl, by simp [hfield],
            by simp [fields, Token.fieldEntry, hfield]⟩
  | _ => exact .inl rfl

theorem paren_notMem_toString (n : Nat) : '(' ∉ (toString n).toList := by
  intro h
  rw [Nat.toString_eq_repr, Nat.toList_repr] at h
  have hdigit := Nat.isDigit_of_mem_toDigits (by decide) (by decide) h
  exact absurd hdigit (by decide)

theorem text_opener (index : Nat) (token : Token) :
    ∃ rest, (Piece.opener token).text index = '(' :: rest ∧ '(' ∉ rest ∧
      (token.field = none → rest = ['?', ':']) := by
  cases hfield : token.field with
  | none => exact ⟨['?', ':'], by simp [text, hfield], by decide, fun _ => rfl⟩
  | some name =>
      refine ⟨"?P<f".toList ++ (toString index).toList ++ ['>'], by simp [text, hfield], ?_,
        fun h => by cases h⟩
      simp only [List.mem_append, not_or]
      exact ⟨⟨by decide, paren_notMem_toString index⟩, by decide⟩

theorem le_of_mem_schemaFrom {index place : Nat} {pieces : List Piece} {entry : Nat × Field}
    (h : entry ∈ schemaFrom index place pieces) : place ≤ entry.1 := by
  induction pieces generalizing index place with
  | nil => simp [schemaFrom] at h
  | cons piece rest ih =>
      rw [schemaFrom, List.mem_append] at h
      rcases h with h | h
      · obtain ⟨field, -, rfl⟩ := List.mem_map.1 h
        exact Nat.le_refl place
      · exact Nat.le_trans (Nat.le_add_right _ _) (ih h)

theorem schemaFrom_sorted (index place : Nat) (pieces : List Piece) :
    ((schemaFrom index place pieces).map Prod.fst).Pairwise (· < ·) := by
  induction pieces generalizing index place with
  | nil => simp [schemaFrom]
  | cons piece rest ih =>
      rw [schemaFrom, List.map_append]
      rcases piece.fields_cases with hnone | ⟨token, entry, rfl, -, hentry⟩
      · simpa [hnone] using ih index (place + (piece.text index).length)
      · obtain ⟨more, htext, -⟩ := text_opener index token
        simp only [hentry, List.map_cons, List.map_nil, List.singleton_append,
          List.pairwise_cons, List.length_singleton]
        refine ⟨fun later hlater => ?_, ih _ _⟩
        obtain ⟨pair, hpair, rfl⟩ := List.mem_map.1 hlater
        have hle := le_of_mem_schemaFrom hpair
        rw [htext, List.length_cons] at hle
        omega

theorem inFragment_of_mem_schemaFrom {index base place : Nat} {pieces : List Piece}
    (h : base + place ∈ (schemaFrom index base pieces).map Prod.fst) :
    inFragment index pieces place = false := by
  induction pieces generalizing index base place with
  | nil => simp [schemaFrom] at h
  | cons piece rest ih =>
      rw [inFragment]
      split
      · next hlt =>
          rcases piece.fields_cases with hnone | ⟨token, entry, rfl, -, -⟩
          · rw [schemaFrom, hnone, List.map_nil, List.nil_append, List.mem_map] at h
            obtain ⟨pair, hpair, hplace⟩ := h
            have hle := le_of_mem_schemaFrom hpair
            omega
          · rfl
      · next hge =>
          have htail : base + (piece.text index).length + (place - (piece.text index).length) ∈
              (schemaFrom (index + piece.fields.length) (base + (piece.text index).length)
                rest).map Prod.fst := by
            rw [schemaFrom, List.map_append, List.mem_append] at h
            have hplace : base + (piece.text index).length +
                (place - (piece.text index).length) = base + place := by omega
            rw [hplace]
            refine h.resolve_left fun hhead => ?_
            rcases piece.fields_cases with hnone | ⟨token, entry, rfl, -, hentry⟩
            · simp [hnone] at hhead
            · obtain ⟨more, htext, -⟩ := text_opener index token
              simp only [hentry, List.map_cons, List.map_nil, List.mem_singleton] at hhead
              rw [htext, List.length_cons] at hge
              omega
          exact ih htail

/-! ## What an opener can stand in -/

theorem append_cons_split {front back first second : List Char} {c : Char}
    (h : first ++ second = front ++ c :: back) (hlt : front.length < first.length) :
    ∃ middle, first = front ++ c :: middle ∧ back = middle ++ second := by
  rcases List.append_eq_append_iff.1 h with ⟨more, rfl, hsecond⟩ | ⟨more, rfl, hback⟩
  · simp only [List.length_append] at hlt
    omega
  · cases more with
    | nil => simp at hlt
    | cons d middle =>
        cases hback
        exact ⟨middle, rfl, rfl⟩

theorem escapeChar_cases (c : Char) :
    escapeChar c = ['\\', c] ∨ (escapeChar c = [c] ∧ c ≠ '\\' ∧ c ≠ '(') := by
  unfold escapeChar
  split
  · exact .inl rfl
  · next hspecial =>
      refine .inr ⟨rfl, ?_, ?_⟩ <;>
        · rintro rfl
          exact hspecial (by decide)

/-- In escaped text a parenthesis has a backslash before it. -/
theorem openBackslash_of_escapeText {front middle back ending body : List Char}
    (hfront : openBackslash front = false) (hending : '(' ∉ ending)
    (h : escapeText body ++ ending = middle ++ '(' :: back) :
    openBackslash (front ++ middle) = true := by
  induction body generalizing front middle with
  | nil =>
      refine absurd ?_ hending
      simp only [escapeText, List.flatMap_nil, List.nil_append] at h
      simp [h]
  | cons c body ih =>
      have hnext : escapeText (c :: body) = escapeChar c ++ escapeText body := rfl
      rw [hnext, List.append_assoc] at h
      rcases escapeChar_cases c with hpair | ⟨hplain, hbackslash, hparen⟩
      · rw [hpair] at h
        match middle with
        | [] => cases h
        | [d] =>
            cases h
            simp [hfront]
        | d :: d' :: middle =>
            simp only [List.cons_append, List.nil_append, List.cons.injEq] at h
            obtain ⟨rfl, rfl, h⟩ := h
            have hclosed : openBackslash (front ++ ['\\'] ++ [c]) = false := by
              rw [openBackslash_concat, openBackslash_concat]
              simp [hfront]
            simpa using ih hclosed h
      · rw [hplain] at h
        cases middle with
        | nil =>
            cases h
            exact absurd rfl hparen
        | cons d middle =>
            simp only [List.cons_append, List.nil_append, List.cons.injEq] at h
            obtain ⟨rfl, h⟩ := h
            have hclosed : openBackslash (front ++ [c]) = false := by simp [hbackslash]
            simpa using ih hclosed h

theorem openBackslash_of_literal {front middle back : List Char} {content : AnchoredLiteral}
    (hfront : openBackslash front = false)
    (h : content.regexText = middle ++ '(' :: back) : openBackslash (front ++ middle) = true := by
  have hending : '(' ∉ content.ending.regexText := by cases content.ending <;> decide
  rw [AnchoredLiteral.regexText] at h
  split at h
  · cases middle with
    | nil => cases h
    | cons d middle =>
        simp only [List.cons_append, List.nil_append, List.cons.injEq] at h
        obtain ⟨rfl, h⟩ := h
        have hanchor : openBackslash (front ++ ['^']) = false := by simp
        simpa using openBackslash_of_escapeText hanchor hending h
  · exact openBackslash_of_escapeText hfront hending (by simpa using h)

/-- A parenthesis that may open a capturing group is raw text or starts a field's opener. -/
theorem isFragment_or_fields_ne_nil {index : Nat} {front middle tail more : List Char}
    {piece : Piece} (hliteral : (∃ content, piece = .literal content) → openBackslash front = false)
    (htext : piece.text index = middle ++ '(' :: tail)
    (hclosed : openBackslash (front ++ middle) = false)
    (hplain : ∀ rest, tail ++ more ≠ '?' :: ':' :: rest) :
    piece.isFragment = true ∨ (piece.fields ≠ [] ∧ middle = []) := by
  cases piece with
  | fragment text => exact .inl rfl
  | literal content =>
      have hopen := openBackslash_of_literal (hliteral ⟨content, rfl⟩) htext
      rw [hopen] at hclosed
      cases hclosed
  | closer =>
      have hmem : '(' ∈ (Piece.closer).text index := by
        rw [htext]
        simp
      exact absurd hmem (by simp [text])
  | opener token =>
      obtain ⟨rest, hopener, hparen, hnone⟩ := text_opener index token
      rw [hopener] at htext
      cases middle with
      | nil =>
          obtain rfl : rest = tail := (List.cons.inj htext).2
          refine .inr ⟨fun hfields => ?_, rfl⟩
          have hfield : token.field = none := by
            simpa [fields, Token.fieldEntry] using hfields
          rw [hnone hfield] at hplain
          exact hplain more rfl
      | cons d middle =>
          refine absurd ?_ hparen
          rw [(List.cons.inj htext).2]
          simp

/-- Only raw text and the openers of fields can open capturing groups. -/
theorem inFragment_or_mem_schemaFrom {whole front : List Char} {index place : Nat}
    {pieces : List Piece} (hwhole : whole = front ++ textFrom index pieces)
    (hsettled : Settled index front pieces) (hopener : OpenerAt whole (front.length + place))
    (hlt : place < (textFrom index pieces).length) :
    inFragment index pieces place = true ∨
      front.length + place ∈ (schemaFrom index front.length pieces).map Prod.fst := by
  induction pieces generalizing index front place with
  | nil => simp at hlt
  | cons piece rest ih =>
      rw [inFragment, schemaFrom, List.map_append, List.mem_append]
      split
      · next hhere =>
          obtain ⟨before, inner, hsplit, hlength, hclosed, hplain⟩ := hopener
          obtain ⟨middle, rfl, hmiddle⟩ : ∃ middle, before = front ++ middle ∧
              piece.text index ++ textFrom (index + piece.fields.length) rest =
                middle ++ '(' :: inner := by
            rw [hwhole, textFrom_cons] at hsplit
            rcases List.append_eq_append_iff.1 hsplit with ⟨more, rfl, h⟩ | ⟨more, rfl, h⟩
            · exact ⟨more, rfl, h⟩
            · simp only [List.length_append] at hlength
              obtain rfl : more = [] := List.eq_nil_of_length_eq_zero (by omega)
              exact ⟨[], by simp, by simpa using h.symm⟩
          simp only [List.length_append] at hlength
          obtain ⟨tail, htext, rfl⟩ := append_cons_split hmiddle (by omega)
          refine (isFragment_or_fields_ne_nil hsettled.1 htext hclosed hplain).imp_right ?_
          rintro ⟨hfields, rfl⟩
          obtain rfl : place = 0 := by simpa using hlength.symm
          rcases piece.fields_cases with hnone | ⟨token, entry, rfl, -, hentry⟩
          · exact absurd hnone hfields
          · exact .inl (by simp [hentry])
      · next hge =>
          have hplace : (front ++ piece.text index).length +
              (place - (piece.text index).length) = front.length + place := by
            simp only [List.length_append]
            omega
          rw [← hplace] at hopener ⊢
          rw [textFrom_cons, List.length_append] at hlt
          have htail := ih (by simp [hwhole]) hsettled.2 hopener (by omega)
          rw [List.length_append] at htail ⊢
          exact htail.imp_right .inr

end Piece

/-! ## Expansions leave no backslash open -/

theorem openBackslash_append_escapeText {front : List Char} (body : List Char)
    (hfront : openBackslash front = false) : openBackslash (front ++ escapeText body) = false := by
  induction body generalizing front with
  | nil => simpa [escapeText] using hfront
  | cons c body ih =>
      have hnext : escapeText (c :: body) = escapeChar c ++ escapeText body := rfl
      rw [hnext, ← List.append_assoc]
      refine ih ?_
      rcases Piece.escapeChar_cases c with hpair | ⟨hplain, hbackslash, -⟩
      · have hsplit : front ++ ['\\', c] = front ++ ['\\'] ++ [c] := by simp
        rw [hpair, hsplit, openBackslash_concat, openBackslash_concat]
        simp [hfront]
      · simp [hplain, hbackslash]

theorem openBackslash_append_literal {front : List Char} (content : AnchoredLiteral)
    (hfront : openBackslash front = false) :
    openBackslash (front ++ content.regexText) = false := by
  have hanchor : openBackslash (front ++ if content.startAnchor then ['^'] else []) = false := by
    split
    · simp
    · simpa using hfront
  rw [AnchoredLiteral.regexText, ← List.append_assoc, ← List.append_assoc]
  refine openBackslash_append_of_getLast? (openBackslash_append_escapeText _ hanchor) ?_
  cases content.ending <;> decide

namespace Expansion

theorem literal_notMem_tokenPieces (lookup : Lookup) (depth : Nat) (token : Token)
    (content : AnchoredLiteral) : .literal content ∉ tokenPieces lookup depth token := by
  induction depth generalizing token with
  | zero => simp [tokenPieces]
  | succ depth ih =>
      simp only [tokenPieces, List.mem_append, List.mem_cons, List.mem_flatMap, reduceCtorEq,
        List.not_mem_nil, or_false, false_or, not_exists, not_and]
      intro segment _
      cases segment with
      | literal text => simp [fragmentPieces]
      | token inner => exact ih inner

theorem openBackslash_append_token {front : List Char} (lookup : Lookup) (depth index : Nat)
    (token : Token) (hfront : openBackslash front = false) :
    openBackslash (front ++ Piece.textFrom index (tokenPieces lookup depth token)) = false := by
  cases depth with
  | zero => simpa [tokenPieces] using hfront
  | succ depth =>
      have hclose : ∀ index, Piece.textFrom index [.closer] = [')'] := fun _ => rfl
      rw [tokenPieces, Piece.textFrom_append, hclose, ← List.append_assoc, openBackslash_concat]
      simp

theorem settled_segmentPieces {lookup : Lookup} {depth index : Nat} {first : Bool}
    {front : List Char} {parts : List Segment} (hfront : openBackslash front = false) :
    Piece.Settled index front (segmentPieces lookup depth first parts) := by
  induction parts generalizing index first front with
  | nil => trivial
  | cons segment rest ih =>
      cases segment with
      | literal text => exact ⟨fun _ => hfront, ih (openBackslash_append_literal _ hfront)⟩
      | token token =>
          exact Piece.settled_append
            (Piece.settled_of_noLiteral (literal_notMem_tokenPieces lookup depth token))
            (ih (openBackslash_append_token lookup depth index token hfront))

end Expansion

/-! ## Groups of compiled patterns -/

namespace CompiledPattern

/-- The fields that the expansion of a pattern text declares, with the places of their openers. -/
def schemaPlaces (lookup : Lookup) (maxDepth : Nat) (text : String) : List (Nat × Field) :=
  Piece.schemaFrom 0 0 (Expansion.pieces lookup maxDepth text)

def isRawText (lookup : Lookup) (maxDepth : Nat) (text : String) (place : Nat) : Bool :=
  Piece.inFragment 0 (Expansion.pieces lookup maxDepth text) place

/-- The places of the openers of the groups that count, in the order of their numbers. -/
def groupPlaces (pattern : CompiledPattern) : List Nat :=
  (Regex.groupPlaces pattern.expanded.toList).take pattern.regex.captureCount

def ofExpansion (text : String) (expansion : Expansion) : Except CompileError CompiledPattern :=
  match Regex.ofText? expansion.text.toList with
  | .error fault => .error (.invalidRegex (.refused fault))
  | .ok regex =>
      let fields := expansion.fields.toList
      if regex.captureCount = fields.length then .ok ⟨text, expansion.text, regex, fields⟩
      else .error (.invalidRegex (.groupsDiffer regex.captureCount fields.length))

theorem compile_eq_bind (lookup : Lookup) (maxDepth : Nat) (text : String) :
    compile lookup maxDepth text = (Expansion.ofText lookup maxDepth text).bind (ofExpansion text) := by
  rw [compile]
  cases Expansion.ofText lookup maxDepth text <;> rfl

theorem error_of_ofExpansion {text : String} {expansion : Expansion} {e : CompileError}
    (h : ofExpansion text expansion = .error e) : ∃ problem, e = .invalidRegex problem := by
  rw [ofExpansion] at h
  split at h
  · cases h
    exact ⟨_, rfl⟩
  · dsimp only at h
    split at h
    · cases h
    · cases h
      exact ⟨_, rfl⟩

theorem compile_inv {lookup : Lookup} {maxDepth : Nat} {text : String} {pattern : CompiledPattern}
    (h : compile lookup maxDepth text = .ok pattern) :
    ∃ expansion, Expansion.ofText lookup maxDepth text = .ok expansion ∧
      pattern.expanded = expansion.text ∧ pattern.fields = expansion.fields.toList ∧
      Regex.ofText? pattern.expanded.toList = .ok pattern.regex ∧
      pattern.regex.captureCount = pattern.fields.length := by
  rw [compile_eq_bind] at h
  obtain ⟨expansion, hexpand, h⟩ := except_bind_eq_ok h
  rw [ofExpansion] at h
  split at h
  · cases h
  · next regex hregex =>
      dsimp only at h
      split at h
      · next hcount =>
          cases h
          exact ⟨expansion, hexpand, rfl, rfl, hregex, hcount⟩
      · cases h

theorem length_groupPlaces {pattern : CompiledPattern}
    (h : Regex.ofText? pattern.expanded.toList = .ok pattern.regex) :
    pattern.groupPlaces.length = pattern.regex.captureCount := by
  rw [groupPlaces, List.length_take, Nat.min_eq_left (captureCount_le h)]

theorem mem_schemaPlaces {lookup : Lookup} {maxDepth : Nat} {text : String}
    {pattern : CompiledPattern} (h : compile lookup maxDepth text = .ok pattern) {place : Nat}
    (hplace : place ∈ pattern.groupPlaces)
    (hraw : isRawText lookup maxDepth text place = false) :
    place ∈ (schemaPlaces lookup maxDepth text).map Prod.fst := by
  obtain ⟨expansion, hexpand, hexpanded, -, -⟩ := compile_inv h
  have hwhole := (Expansion.ofText_writes hexpand).1
  rw [← hexpanded] at hwhole
  have hopener := openerAt_of_mem_groupPlaces (List.mem_of_mem_take hplace)
  have hlt : place < pattern.expanded.toList.length := by
    obtain ⟨before, inner, hsplit, hlength, -⟩ := hopener
    rw [hsplit, List.length_append, List.length_cons]
    omega
  rw [hwhole] at hlt
  have hsettled : Piece.Settled 0 [] (Expansion.pieces lookup maxDepth text) :=
    Expansion.settled_segmentPieces rfl
  have hstart : OpenerAt pattern.expanded.toList (([] : List Char).length + place) := by
    simpa using hopener
  have hcases := Piece.inFragment_or_mem_schemaFrom hwhole hsettled hstart hlt
  rw [isRawText] at hraw
  simpa [hraw, schemaPlaces] using hcases

/--
A compiled pattern has as many groups as fields.  Group by group they are those that the
tokens of the fields opened exactly when raw text of fragments opens none that counts.
-/
theorem groups_follow_schema_iff {lookup : Lookup} {maxDepth : Nat} {text : String}
    {pattern : CompiledPattern} (h : compile lookup maxDepth text = .ok pattern) :
    pattern.expanded.toList = Piece.textFrom 0 (Expansion.pieces lookup maxDepth text) ∧
      pattern.regex.captureCount = pattern.fields.length ∧
      pattern.groupPlaces.length = pattern.regex.captureCount ∧
      (schemaPlaces lookup maxDepth text).map Prod.snd = pattern.fields ∧
      (pattern.groupPlaces.zip pattern.fields = schemaPlaces lookup maxDepth text ↔
        ∀ place ∈ pattern.groupPlaces, isRawText lookup maxDepth text place = false) := by
  obtain ⟨expansion, hexpand, hexpanded, hfields, hregex, hcount⟩ := compile_inv h
  have hpieces := (Expansion.ofText_writes hexpand).1
  rw [← hexpanded] at hpieces
  have hschema : (schemaPlaces lookup maxDepth text).map Prod.snd = pattern.fields := by
    rw [schemaPlaces, Piece.map_snd_schemaFrom, hfields, (Expansion.ofText_writes hexpand).2]
  have hlength := length_groupPlaces hregex
  refine ⟨hpieces, hcount, hlength, hschema, fun hzip place hplace => ?_, fun hraw => ?_⟩
  · have hfirst : pattern.groupPlaces = (schemaPlaces lookup maxDepth text).map Prod.fst := by
      rw [← hzip, List.map_fst_zip (by omega)]
    rw [hfirst, schemaPlaces, ← Nat.zero_add place] at hplace
    exact Piece.inFragment_of_mem_schemaFrom hplace
  · -- both lists are sorted, and one of them lies in the other, which is no longer
    have hsubset : pattern.groupPlaces ⊆ (schemaPlaces lookup maxDepth text).map Prod.fst :=
      fun place hplace => mem_schemaPlaces h hplace (hraw place hplace)
    have hsorted : pattern.groupPlaces.Pairwise (· < ·) :=
      (groupPlaces_sorted _).sublist (List.take_sublist _ _)
    have hsublist := List.sublist_of_subperm_of_pairwise
      (List.subperm_of_subset hsorted.nodup hsubset) hsorted (Piece.schemaFrom_sorted 0 0 _)
    have hsame : pattern.groupPlaces = (schemaPlaces lookup maxDepth text).map Prod.fst := by
      refine hsublist.eq_of_length ?_
      rw [hlength, hcount, ← hschema, List.length_map, List.length_map]
    exact (List.zip_of_prod hsame.symm hschema).symm

/-- A field around a group that was made plain, and another field inside it. -/
theorem groups_follow_schema_nested :
    let registry := (Registry.empty.registerAll
      [⟨"A", "(a|b)%{B:digit}"⟩, ⟨"B", "[0-9]"⟩]).registry
    ∃ pattern, compile registry.lookup? defaultMaxDepth "x(%{A:whole}" = .ok pattern ∧
      pattern.groupPlaces.zip pattern.fields =
        schemaPlaces registry.lookup? defaultMaxDepth "x(%{A:whole}" := by
  intro registry
  obtain ⟨pattern, hpattern, hraw⟩ :
      ∃ pattern, compile registry.lookup? defaultMaxDepth "x(%{A:whole}" = .ok pattern ∧
        (pattern.groupPlaces.all fun place =>
          !isRawText registry.lookup? defaultMaxDepth "x(%{A:whole}" place) = true :=
    except_exists_ok (by decide +kernel)
  refine ⟨pattern, hpattern, (groups_follow_schema_iff hpattern).2.2.2.2.2 fun place hplace => ?_⟩
  simpa using List.all_eq_true.1 hraw place hplace

/--
A class that ends in a bracket hides the next bracket from the reader of fragments, which
takes it for a class of its own: the group stays, and the class behind it takes the opener.
-/
theorem raw_group_stands_for_field :
    let registry := (Registry.empty.registerAll
      [⟨"A", "[+-[](a)[%{B:f}]"⟩, ⟨"B", "x"⟩]).registry
    ∃ pattern, compile registry.lookup? defaultMaxDepth "%{A}" = .ok pattern ∧
      pattern.groupPlaces.zip pattern.fields ≠
        schemaPlaces registry.lookup? defaultMaxDepth "%{A}" := by
  intro registry
  obtain ⟨pattern, hpattern, hdiffer⟩ :
      ∃ pattern, compile registry.lookup? defaultMaxDepth "%{A}" = .ok pattern ∧
        (pattern.groupPlaces.zip pattern.fields !=
          schemaPlaces registry.lookup? defaultMaxDepth "%{A}") = true :=
    except_exists_ok (by decide +kernel)
  exact ⟨pattern, hpattern, by simpa using hdiffer⟩

end CompiledPattern

end LogPattern
