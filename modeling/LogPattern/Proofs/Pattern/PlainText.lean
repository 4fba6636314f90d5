import LogPattern.Proofs.Pattern.Composition
import LogPattern.Proofs.Pattern.FieldGroups
import LogPattern.Proofs.Pattern.Tokenize
import LogPattern.Proofs.Regex.Finding
import Mathlib.Data.List.Infix

/-!
# Patterns of plain text

A pattern text without tokens is one literal.  Its program has a step for every character
and every anchor, in order, so a search with it is a search for a part of the line: anywhere,
at the start, at the end, or the line as a whole, as the anchors say.
-/

namespace LogPattern

open Regex

namespace AnchoredLiteral

/-- There is one way only to tell the anchors of a text apart from its body. -/
theorem Divides.unique {literal other : AnchoredLiteral} {text : List Char} {first last : Bool}
    (h : literal.Divides text first last) (hother : other.Divides text first last) :
    other = literal := by
  obtain ⟨startAnchor, body, ending⟩ := literal
  obtain ⟨startAnchor', body', ending'⟩ := other
  have hstart : startAnchor' = startAnchor := Bool.eq_iff_iff.2 (hother.start.trans h.start.symm)
  have hanchor : ending' = .anchor ↔ ending = .anchor := hother.anchor.trans h.anchor.symm
  have hdollar : ending' = .dollar ↔ ending = .dollar := hother.dollar.trans h.dollar.symm
  have hending : ending' = ending := by
    cases ending <;> cases ending' <;> simp at hanchor hdollar ⊢
  subst hstart hending
  have hbody := hother.complete.trans h.complete.symm
  simp only [List.append_assoc] at hbody
  obtain rfl : body' = body := List.append_cancel_right (List.append_cancel_left hbody)
  rfl

def plainText (literal : AnchoredLiteral) : List Char :=
  literal.body ++ if literal.ending = .dollar then ['$'] else []

/-- The text stands in the line, at the ends to which the literal is anchored. -/
def OccursIn (literal : AnchoredLiteral) (line : List Char) : Prop :=
  match literal.startAnchor, decide (literal.ending = .anchor) with
  | false, false => literal.plainText <:+: line
  | true, false => literal.plainText <+: line
  | false, true => literal.plainText <:+ line
  | true, true => line = literal.plainText

instance (literal : AnchoredLiteral) (line : List Char) : Decidable (literal.OccursIn line) := by
  unfold OccursIn
  split <;> infer_instance

theorem occursIn_iff (literal : AnchoredLiteral) (line : List Char) :
    literal.OccursIn line ↔ ∃ front rest, line = front ++ literal.plainText ++ rest ∧
      (literal.startAnchor = true → front = []) ∧ (literal.ending = .anchor → rest = []) := by
  unfold OccursIn
  cases literal.startAnchor <;> by_cases hending : literal.ending = .anchor <;>
    simp [hending, List.IsInfix, List.IsPrefix, List.IsSuffix, eq_comm]

end AnchoredLiteral

/-! ## Expressions of plain text -/

inductive Sign where
  | textStart
  | char (c : Char)
  | textEnd

namespace Sign

def atom : Sign → Atom
  | textStart => .assertion .lineStart
  | char c => .char c false
  | textEnd => .assertion .lineEnd

def expr : Sign → Expr
  | textStart => .look .textStart
  | char c => .chars (.single c.toNat)
  | textEnd => .look .textEnd

def step : Sign → Step
  | textStart => .look .textStart
  | char c => .char (.single c.toNat)
  | textEnd => .look .textEnd

theorem resolve_atom (sign : Sign) : sign.atom.resolve .initial = .ok sign.expr := by
  cases sign <;> rfl

theorem emit_expr (sign : Sign) (code : Program) : sign.expr.emit code = code.push sign.step := by
  cases sign <;> rfl

theorem isStraight_step (sign : Sign) : sign.step.isStraight = true := by
  cases sign <;> rfl

def exprOf : List Sign → Expr
  | [] => .empty
  | [sign] => sign.expr
  | signs => .sequence (signs.map expr)

theorem resolveAll_atoms (signs : List Sign) (done : List Expr) :
    Tree.resolveAll .initial done (signs.map fun sign => .one sign.atom) =
      .ok (done.reverse ++ signs.map expr, .initial) := by
  induction signs generalizing done with
  | nil => simp [Tree.resolveAll]
  | cons sign signs ih =>
      have hfirst : (Tree.one sign.atom).resolve .initial = .ok (sign.expr, .initial) := by
        rw [Tree.resolve, resolve_atom]
        rfl
      simp [Tree.resolveAll, hfirst, ih]

theorem expr_ofItems (signs : List Sign) :
    (Tree.ofItems (signs.map fun sign => .one sign.atom)).expr = .ok (exprOf signs) := by
  match signs with
  | [] => rfl
  | [sign] =>
      simp only [List.map_cons, List.map_nil, Tree.ofItems, Tree.expr, Tree.resolve, resolve_atom]
      rfl
  | first :: second :: signs =>
      have hall := resolveAll_atoms (first :: second :: signs) []
      simp only [List.map_cons] at hall
      simp only [List.map_cons, Tree.ofItems, Tree.expr, Tree.resolve, hall]
      rfl

theorem emitAll_exprs (signs : List Sign) (code : Program) :
    (Expr.emitAll code (signs.map expr)).toList = code.toList ++ signs.map step := by
  induction signs generalizing code with
  | nil => simp [Expr.emitAll]
  | cons sign signs ih =>
      rw [List.map_cons, Expr.emitAll, ih, emit_expr]
      simp

theorem emit_exprOf (signs : List Sign) (code : Program) :
    ((exprOf signs).emit code).toList = code.toList ++ signs.map step := by
  match signs with
  | [] => simp [exprOf, Expr.emit]
  | [sign] => simp [exprOf, emit_expr]
  | first :: second :: signs => exact emitAll_exprs (first :: second :: signs) code

theorem program_exprOf (signs : List Sign) :
    (exprOf signs).program.toList =
      .mark 0 :: (signs.map step ++ [.mark 1, .accept]) := by
  simp [Expr.program, Expr.emit, emit_exprOf]

end Sign

namespace AnchoredLiteral

def signs (literal : AnchoredLiteral) : List Sign :=
  (if literal.startAnchor then [.textStart] else []) ++
    (literal.plainText.map Sign.char ++ if literal.ending = .anchor then [.textEnd] else [])

theorem map_atom_signs (literal : AnchoredLiteral) :
    literal.signs.map Sign.atom = literal.atoms := by
  cases hstart : literal.startAnchor <;> cases hending : literal.ending <;>
    simp [signs, atoms, plainText, Sign.atom, hstart, hending]

/-- The steps of a literal ask for its text at a place, and for its anchors. -/
theorem runs_signs (literal : AnchoredLiteral) (before : Option Char) (text : List Char) :
    Runs before text (literal.signs.map Sign.step ++ [.mark 1, .accept]) ↔
      (literal.startAnchor = true → before = none) ∧
        ∃ rest, text = literal.plainText ++ rest ∧ (literal.ending = .anchor → rest = []) := by
  have hchars : (literal.plainText.map Sign.char).map Sign.step =
      literal.plainText.map fun c => Step.char (.single c.toNat) := by
    simp [Sign.step]
  have hend (before : Option Char) (rest : List Char) :
      Runs before rest ((if literal.ending = .anchor then [Sign.textEnd] else []).map Sign.step ++
        [.mark 1, .accept]) ↔ (literal.ending = .anchor → rest = []) := by
    by_cases hending : literal.ending = .anchor <;>
      simp [hending, Runs, Sign.step, Look.holds]
  have hstart (steps : List Step) :
      Runs before text ((if literal.startAnchor then [Sign.textStart] else []).map Sign.step ++
        steps) ↔ (literal.startAnchor = true → before = none) ∧ Runs before text steps := by
    cases literal.startAnchor <;> simp [Runs, Sign.step, Look.holds]
  rw [signs, List.map_append, List.map_append, List.append_assoc, List.append_assoc, hstart, hchars,
    runs_single_append]
  simp only [hend]

theorem isStraight_of_mem {literal : AnchoredLiteral} {step : Step}
    (h : step ∈ Step.mark 0 :: (literal.signs.map Sign.step ++ [.mark 1, .accept])) :
    step.isStraight = true := by
  simp only [List.mem_cons, List.mem_append, List.mem_map, List.not_mem_nil, or_false] at h
  obtain rfl | ⟨sign, -, rfl⟩ | rfl | rfl := h
  · rfl
  · exact sign.isStraight_step
  · rfl
  · rfl

/-- A search with the program of a literal looks for its text. -/
theorem search_program_isSome_iff (literal : AnchoredLiteral) (line : List Char) :
    (search (Sign.exprOf literal.signs).program line).isSome = true ↔ literal.OccursIn line := by
  have hsteps : (Sign.exprOf literal.signs).program.toList.drop 0 = _ :=
    Sign.program_exprOf literal.signs
  have hleads (before : Option Char) (text : List Char) :
      Leads (Sign.exprOf literal.signs).program 0 before text ↔ _ :=
    (leads_iff_runs hsteps fun _ => isStraight_of_mem).trans (literal.runs_signs before text)
  rw [search_isSome_iff, occursIn_iff]
  simp only [hleads]
  constructor
  · rintro ⟨front, back, rfl, hstart, rest, rfl, hend⟩
    exact ⟨front, rest, by rw [List.append_assoc],
      fun hanchor => List.getLast?_eq_none_iff.1 (hstart hanchor), hend⟩
  · rintro ⟨front, rest, rfl, hstart, hend⟩
    refine ⟨front, literal.plainText ++ rest, by rw [List.append_assoc], fun hanchor => ?_, rest,
      rfl, hend⟩
    rw [hstart hanchor]
    rfl

end AnchoredLiteral

/-! ## Compiled patterns -/

namespace CompiledPattern

variable {lookup : Lookup} {maxDepth : Nat} {text : String} {pattern : CompiledPattern}

/-- A text without tokens that compiles is one literal, and its program is that of the literal. -/
theorem exists_literal_of_compile (htokens : ∀ token, .token token ∉ segments text)
    (h : compile lookup maxDepth text = .ok pattern) :
    ∃ literal : AnchoredLiteral, literal.Divides text.toList true true ∧
      pattern.regex.program = (Sign.exprOf literal.signs).program ∧ pattern.fields = [] := by
  obtain ⟨expansion, hexpand, hexpanded, hfields, hregex, -⟩ := compile_inv h
  have htext : text.isEmpty = false := by
    cases hempty : text.isEmpty with
    | false => rfl
    | true => simp [Expansion.ofText, hempty] at hexpand
  have hparts : segments text = [.literal text] := by
    rw [segments_of_no_token htokens, literalSegment]
    simpa using htext
  obtain ⟨hpieces, hentries⟩ := Expansion.ofText_writes hexpand
  obtain ⟨items, htree, hcomposes⟩ := @ofText_segments lookup 0 [.literal text] true (by simp)
  cases hcomposes with
  | @literal _ _ _ _ _ literal items hdivides hrest =>
      cases hrest
      have hitems : literal.atoms.map Tree.one ++ [] =
          literal.signs.map fun sign => .one sign.atom := by
        rw [← literal.map_atom_signs]
        simp
      refine ⟨literal, hdivides, ?_, ?_⟩
      · rw [Expansion.pieces, hparts] at hpieces
        have hsame : pattern.expanded.toList = Piece.textFrom 0
            (Expansion.segmentPieces lookup (0 + 1) true [.literal text]) := by
          rw [hexpanded, hpieces]
          rfl
        rw [← hsame, hitems] at htree
        obtain ⟨tree, e, hread, hexpr, -, hprogram⟩ := Regex.ofText?_eq_ok_iff.1 hregex
        rw [htree] at hread
        cases hread
        rw [Sign.expr_ofItems] at hexpr
        cases hexpr
        rw [hprogram]
      · rw [hfields, hentries, Expansion.pieces, hparts]
        rfl

/--
A text without tokens matches the lines that have its text where its anchors say, and a
match has no fields.
-/
theorem plain_text_matches (htokens : ∀ token, .token token ∉ segments text)
    (h : compile lookup maxDepth text = .ok pattern) :
    ∃ literal : AnchoredLiteral, literal.Divides text.toList true true ∧
      (∀ other : AnchoredLiteral, other.Divides text.toList true true → other = literal) ∧
      ∀ line : String,
        (literal.OccursIn line.toList → pattern.matchLine line = some .empty) ∧
        (¬ literal.OccursIn line.toList → pattern.matchLine line = none) := by
  obtain ⟨literal, hdivides, hprogram, hfields⟩ := exists_literal_of_compile htokens h
  refine ⟨literal, hdivides, fun other hother => hdivides.unique hother, fun line => ?_⟩
  have hsearch := literal.search_program_isSome_iff line.toList
  rw [← hprogram] at hsearch
  unfold matchLine Regex.captures?
  rw [hfields]
  cases hfound : search pattern.regex.program line.toList with
  | none =>
      rw [hfound] at hsearch
      exact ⟨fun hoccurs => absurd (hsearch.2 hoccurs) (by simp), fun _ => rfl⟩
  | some marks =>
      rw [hfound] at hsearch
      exact ⟨fun _ => rfl, fun hnot => absurd (hsearch.1 rfl) hnot⟩

theorem plain_text_matches_start :
    (∀ token, .token token ∉ segments "^a.\\$") ∧
      ∃ pattern, compile (fun _ => none) defaultMaxDepth "^a.\\$" = .ok pattern ∧
        pattern.matchLine "a.$b" = some .empty ∧ pattern.matchLine "ax$" = none := by
  have hparts : segments "^a.\\$" = [.literal "^a.\\$"] := by decide +kernel
  have htokens : ∀ token, .token token ∉ segments "^a.\\$" := by simp [hparts]
  have hcompiles : (compile (fun _ => none) defaultMaxDepth "^a.\\$").isOk = true := by
    decide +kernel
  cases h : compile (fun _ => none) defaultMaxDepth "^a.\\$" with
  | error e => simp [h, Except.isOk, Except.toBool] at hcompiles
  | ok pattern =>
      obtain ⟨literal, -, hunique, hlines⟩ := plain_text_matches htokens h
      have hdivides := AnchoredLiteral.ofText_divides "^a.\\$".toList true true
      obtain rfl := hunique _ hdivides
      exact ⟨htokens, pattern, rfl, (hlines "a.$b").1 (by decide +kernel),
        (hlines "ax$").2 (by decide +kernel)⟩

end CompiledPattern

end LogPattern
