/-!
# Sets of code points

A set of characters is kept as a list of code point ranges in increasing order,
with a gap between neighbours.  Membership walks the list and stops at the first
range that starts beyond the code point, so common text is decided after a few
comparisons even in a set with hundreds of ranges.
-/

namespace LogPattern

def maxCodePoint : Nat := 0x10FFFF

/--
A set of code points as ranges with both ends included.

Every operation below answers ranges in increasing order of which no two
overlap or touch.
-/
structure CodeSet where
  ranges : List (Nat × Nat)
deriving DecidableEq, Repr, Inhabited

namespace CodeSet

def empty : CodeSet := ⟨[]⟩

def range (low high : Nat) : CodeSet := ⟨[(low, high)]⟩

def single (code : Nat) : CodeSet := range code code

/-- Membership in increasing ranges; the walk ends where a range starts later. -/
def inRanges (code : Nat) : List (Nat × Nat) → Bool
  | [] => false
  | (low, high) :: rest =>
      if code < low then false
      else if code ≤ high then true
      else inRanges code rest

def contains (set : CodeSet) (code : Nat) : Bool := inRanges code set.ranges

def containsChar (set : CodeSet) (c : Char) : Bool := set.contains c.toNat

theorem contains_range (low high code : Nat) :
    (range low high).contains code = decide (low ≤ code ∧ code ≤ high) := by
  simp only [contains, range, inRanges]
  by_cases hl : code < low
  · have : ¬ low ≤ code := by omega
    simp [hl, this]
  · by_cases hh : code ≤ high
    · have : low ≤ code := by omega
      simp [hl, hh, this]
    · simp [hl, hh]

theorem contains_single (member code : Nat) :
    (single member).contains code = decide (code = member) := by
  rw [single, contains_range]
  congr 1
  simp only [eq_iff_iff]
  omega

/--
Two increasing range lists as one, ordered by the lower ends.

`steps` counts the ranges still to be placed; `union` passes their number.
-/
def interleave : (steps : Nat) → List (Nat × Nat) → List (Nat × Nat) → List (Nat × Nat)
  | 0, xs, ys => xs ++ ys
  | _ + 1, [], ys => ys
  | _ + 1, xs, [] => xs
  | steps + 1, x :: xs, y :: ys =>
      if x.1 ≤ y.1 then x :: interleave steps xs (y :: ys)
      else y :: interleave steps (x :: xs) ys

/-- Extend the range `(low, high)` by every following range that overlaps or touches it. -/
def absorb (low high : Nat) : List (Nat × Nat) → List (Nat × Nat)
  | [] => [(low, high)]
  | (a, b) :: rest =>
      if a ≤ high + 1 then absorb low (max high b) rest
      else (low, high) :: absorb a b rest

def joinTouching : List (Nat × Nat) → List (Nat × Nat)
  | [] => []
  | (a, b) :: rest => absorb a b rest

def union (s t : CodeSet) : CodeSet :=
  ⟨joinTouching (interleave (s.ranges.length + t.ranges.length) s.ranges t.ranges)⟩

/-- The ranges of `low … high` that lie between the given increasing ranges. -/
def gaps (high : Nat) (low : Nat) : List (Nat × Nat) → List (Nat × Nat)
  | [] => if low ≤ high then [(low, high)] else []
  | (a, b) :: rest =>
      if low < a then (low, a - 1) :: gaps high (b + 1) rest
      else gaps high (b + 1) rest

def complementUpTo (high : Nat) (set : CodeSet) : CodeSet := ⟨gaps high 0 set.ranges⟩

def complement (set : CodeSet) : CodeSet := set.complementUpTo maxCodePoint

/-- By De Morgan: what is outside neither set. -/
def inter (s t : CodeSet) : CodeSet := (s.complement.union t.complement).complement

def difference (s t : CodeSet) : CodeSet := s.inter t.complement

def symmetricDifference (s t : CodeSet) : CodeSet := (s.difference t).union (t.difference s)

def insert (set : CodeSet) (low high : Nat) : CodeSet := set.union (range low high)

def isUpTo (high : Nat) (set : CodeSet) : Bool := set.ranges.all (fun r => r.2 ≤ high)

def single? (set : CodeSet) : Option Nat :=
  match set.ranges with
  | [(a, b)] => if a = b then some a else none
  | _ => none

end CodeSet

end LogPattern
