import LogPattern.CodePoint.Bytes
import LogPattern.Regex.Expr
import Std.Data.HashMap

/-!
# The size of an expression's automata

An expression is refused when its byte automaton, or the automaton that reads
backwards, would take more than ten mebibytes.  The sizes follow from the shape of
the expression: a fixed cost for every state and a cost for every edge of a state
with several.  Repetitions count their operand once for every copy, so the sizes
are found without building anything.
-/

namespace LogPattern.Regex

/-- The memory that the automata of one expression may take, in bytes. -/
def footprintLimit : Nat := 10 * 1024 * 1024

def stateCost : Nat := 32

/-- The memory of one labelled edge of a state with a choice of bytes. -/
def edgeCost : Nat := 8

/-- The memory of one unlabelled edge of a state with a choice of successors. -/
def jumpCost : Nat := 4

structure Footprint where
  states : Nat
  edges : Nat

namespace Footprint

def zero : Footprint := ⟨0, 0⟩

def add (a b : Footprint) : Footprint := ⟨a.states + b.states, a.edges + b.edges⟩

def scale (n : Nat) (a : Footprint) : Footprint := ⟨n * a.states, n * a.edges⟩

def cost (a : Footprint) : Nat := stateCost * a.states + a.edges

end Footprint

/-- The states of an automaton that shares equal states, with their successors. -/
abbrev SharedStates := Std.HashMap (List (ByteRange × Nat)) Nat

/-- The number of a state with the given edges, new or known, and the edges seen so far. -/
def internState (known : SharedStates) (edgeCount : Nat) (edges : List (ByteRange × Nat)) :
    Nat × SharedStates × Nat :=
  match known[edges]? with
  | some state => (state, known, edgeCount)
  | none =>
      let state := known.size + 1
      (state, known.insert edges state, edgeCount + edges.length)

def groupByFirst (sequences : List (List ByteRange)) : List (ByteRange × List (List ByteRange)) :=
  (sequences.foldl (fun groups sequence =>
    match sequence, groups with
    | [], _ => groups
    | first :: rest, (known, members) :: more =>
        if first = known then (known, rest :: members) :: more
        else (first, [rest]) :: (known, members) :: more
    | first :: rest, [] => [(first, [rest])]) []).reverse.map
      fun (first, members) => (first, members.reverse)

/--
The state that accepts the sequences, all of `length` bytes at most; 0 is the state
after a whole character.
-/
def buildShared : (length : Nat) → List (List ByteRange) → SharedStates → Nat →
    Nat × SharedStates × Nat
  | 0, _, known, edgeCount => (0, known, edgeCount)
  | length + 1, sequences, known, edgeCount =>
      if sequences.all (·.isEmpty) then (0, known, edgeCount)
      else
        let (edges, known, edgeCount) :=
          (groupByFirst sequences).foldl (fun (edges, known, edgeCount) (first, rest) =>
            let (state, known, edgeCount) := buildShared length rest known edgeCount
            ((first, state) :: edges, known, edgeCount)) ([], known, edgeCount)
        internState known edgeCount edges.reverse

/-- The automaton that reads the characters of a set forwards. -/
def forwardFootprint (set : CodeSet) : Footprint :=
  if set.isUpTo 0x7F then ⟨2, edgeCost * set.ranges.length⟩
  else
    let (_, known, edgeCount) := buildShared 4 set.byteSequences {} 0
    ⟨known.size + 1, edgeCost * edgeCount⟩

/--
The automaton that reads the characters of a set backwards.  Sequences share the
states of their common beginnings only.
-/
def backwardFootprint (set : CodeSet) : Footprint :=
  if set.isUpTo 0x7F then ⟨2, edgeCost * set.ranges.length⟩
  else
    let sequences := set.byteSequences
    let beginnings := (sequences.foldl (fun (previous, count) sequence =>
      let common := ((previous.zip sequence).takeWhile fun (a, b) => a = b).length
      (sequence, count + (sequence.length - common))) (([] : List ByteRange), 0)).2
    ⟨beginnings + 2, jumpCost * sequences.length⟩

/--
What an expression's automata consist of: parts with the same size in both
directions, capture marks that only the forward automaton has, and sets of
characters with their numbers of copies.
-/
structure Inventory where
  common : Footprint
  marks : Nat
  sets : List (CodeSet × Nat)

namespace Inventory

def empty : Inventory := ⟨.zero, 0, []⟩

def addStates (inventory : Inventory) (states edges : Nat) : Inventory :=
  { inventory with common := inventory.common.add ⟨states, edges⟩ }

def countSet (set : CodeSet) (copies : Nat) : List (CodeSet × Nat) → List (CodeSet × Nat)
  | [] => [(set, copies)]
  | (known, count) :: rest =>
      if known = set then (known, count + copies) :: rest
      else (known, count) :: countSet set copies rest

/-- Count copies of a character class; a class of one character is its bytes. -/
def addSet (inventory : Inventory) (set : CodeSet) (copies : Nat) : Inventory :=
  match set.single? with
  | some code => inventory.addStates (copies * byteLength code) 0
  | none => { inventory with sets := countSet set copies inventory.sets }

/-- The memory of the forward automaton, with the search loop and the marks of the whole match. -/
def forwardCost (inventory : Inventory) : Nat :=
  (inventory.sets.foldl (fun total (set, copies) =>
      total.add ((forwardFootprint set).scale copies))
    (inventory.common.add ⟨inventory.marks + 6, edgeCost + 2 * jumpCost⟩)).cost

def backwardCost (inventory : Inventory) : Nat :=
  (inventory.sets.foldl (fun total (set, copies) =>
      total.add ((backwardFootprint set).scale copies))
    (inventory.common.add ⟨4, edgeCost + 2 * jumpCost⟩)).cost

def fits (inventory : Inventory) : Bool :=
  inventory.forwardCost ≤ footprintLimit && inventory.backwardCost ≤ footprintLimit

end Inventory

namespace Expr

mutual
/-- Add `copies` copies of the expression to an inventory. -/
def count (copies : Nat) (inventory : Inventory) : Expr → Inventory
  | empty => inventory.addStates copies 0
  | chars set => inventory.addSet set copies
  | look _ => inventory.addStates copies 0
  | capture _ content =>
      content.count copies { inventory with marks := inventory.marks + 2 * copies }
  | repeated 0 (some 1) _ operand =>
      operand.count copies (inventory.addStates (2 * copies) (2 * jumpCost * copies))
  | repeated least (some most) _ operand =>
      if least = most then operand.count (least * copies) inventory
      else
        let optional := most - least
        operand.count (most * copies)
          (inventory.addStates ((optional + 1) * copies) (2 * jumpCost * optional * copies))
  | repeated 0 none _ operand =>
      let (states, jumps) := if operand.mayTakeNothing then (3, 4) else (1, 2)
      operand.count copies (inventory.addStates (states * copies) (jumps * jumpCost * copies))
  | repeated least none _ operand =>
      operand.count (least * copies) (inventory.addStates copies (2 * jumpCost * copies))
  | choice branches =>
      countAll copies
        (inventory.addStates (2 * copies) (branches.length * jumpCost * copies)) branches
  | sequence items => countAll copies inventory items

def countAll (copies : Nat) (inventory : Inventory) : List Expr → Inventory
  | [] => inventory
  | e :: rest => countAll copies (e.count copies inventory) rest
end

/-- Both automata of the expression are within the limit. -/
def fits (e : Expr) : Bool := (e.count 1 .empty).fits

end Expr

end LogPattern.Regex
