import LogPattern.Regex.Flags
import LogPattern.Regex.Footprint
import LogPattern.Regex.Parser
import LogPattern.Regex.Search

/-!
# Regular expressions

An expression is read from text, checked for size, and turned into a search
program.  A match gives for every group the part of the text that it took, if it
took part.
-/

namespace LogPattern

open Regex in
structure Regex where
  program : Program
  captureCount : Nat

namespace Regex

/-- A part of a text, from the character at `start` up to the one at `stop`. -/
structure Span where
  start : Nat
  stop : Nat
deriving DecidableEq, Repr

/-- The regular expression that a text describes. -/
def ofText? (text : List Char) : Except Fault Regex :=
  match Tree.ofText? text with
  | .error fault => .error fault
  | .ok tree =>
      match tree.expr with
      | .error fault => .error fault
      | .ok e =>
          if e.fits then .ok ⟨e.program, e.captureCount⟩ else .error .programTooLarge

theorem ofText?_eq_ok_iff {text : List Char} {regex : Regex} :
    ofText? text = .ok regex ↔
      ∃ tree e, Tree.ofText? text = .ok tree ∧ tree.expr = .ok e ∧ e.fits = true ∧
        regex = ⟨e.program, e.captureCount⟩ := by
  unfold ofText?
  constructor
  · intro h
    split at h
    · cases h
    · next tree htree =>
        split at h
        · cases h
        · next e hexpr =>
            split at h
            · next hfits =>
                cases h
                exact ⟨tree, e, htree, hexpr, hfits, rfl⟩
            · cases h
  · rintro ⟨tree, e, htree, hexpr, hfits, rfl⟩
    simp only [htree, hexpr, hfits, if_true]

def slotsOf (slotCount : Nat) (marks : Marks) : Array (Option Nat) :=
  marks.reverse.foldl (fun slots mark => slots.setIfInBounds mark.1 (some mark.2))
    (Array.replicate slotCount none)

/-- The spans of all groups, the whole match first. -/
def spansOf (captureCount : Nat) (marks : Marks) : List (Option Span) :=
  let slots := slotsOf (2 * captureCount + 2) marks
  (List.range (captureCount + 1)).map fun group =>
    match slots[2 * group]?, slots[2 * group + 1]? with
    | some (some start), some (some stop) => some ⟨start, stop⟩
    | _, _ => none

/-- The spans of the groups in the leftmost match, the whole match first. -/
def captures? (regex : Regex) (text : List Char) : Option (List (Option Span)) :=
  (search regex.program text).map (spansOf regex.captureCount)

def Span.slice (span : Span) (text : List Char) : List Char :=
  (text.drop span.start).take (span.stop - span.start)

end Regex

end LogPattern
