import LogPattern.Regex.Program

/-!
# Searching a text

The search follows all ways through a program at once, one character at a time.
The ways are kept in order of preference, and of two that reach the same step at
the same place only the preferred one goes on, so a search takes time in
proportion to the text and an expression that repeats nothing cannot loop.
-/

namespace LogPattern.Regex

/-- The marks passed on a way: slot and position, the latest first. -/
abbrev Marks := List (Nat × Nat)

structure Way where
  step : Nat
  marks : Marks

/--
The ways that wait at a position, in order of preference, and for every step the
last position at which it was reached, plus one.
-/
structure Frontier where
  reached : Array Nat
  waiting : Array Way

namespace Frontier

/--
Follow `pending` ways to the steps where they need a character or end.

Every round drops a way or reaches a step for the first time at this position, and
a step adds at most two ways, so twice the number of steps and one more is enough
for `rounds`.
-/
def follow (program : Program) (place : Place) (position : Nat) :
    (rounds : Nat) → (pending : List Way) → (reached : Array Nat) → (waiting : Array Way) →
    Frontier
  | 0, _, reached, waiting => ⟨reached, waiting⟩
  | _ + 1, [], reached, waiting => ⟨reached, waiting⟩
  | rounds + 1, way :: pending, reached, waiting =>
      if reached[way.step]? = some (position + 1) then
        follow program place position rounds pending reached waiting
      else
        let reached := reached.setIfInBounds way.step (position + 1)
        match program[way.step]? with
        | some (.jump target) =>
            follow program place position rounds (⟨target, way.marks⟩ :: pending) reached waiting
        | some (.split first second) =>
            follow program place position rounds
              (⟨first, way.marks⟩ :: ⟨second, way.marks⟩ :: pending) reached waiting
        | some (.mark slot) =>
            follow program place position rounds
              (⟨way.step + 1, (slot, position) :: way.marks⟩ :: pending) reached waiting
        | some (.look condition) =>
            if condition.holds place then
              follow program place position rounds (⟨way.step + 1, way.marks⟩ :: pending) reached
                waiting
            else follow program place position rounds pending reached waiting
        | some (.char _) =>
            follow program place position rounds pending reached (waiting.push way)
        | some .accept =>
            follow program place position rounds pending reached (waiting.push way)
        | none => follow program place position rounds pending reached waiting

/-- Add a way that begins at a step, with lower preference than the waiting ones. -/
def add (program : Program) (place : Place) (position : Nat) (way : Way) (frontier : Frontier) :
    Frontier :=
  follow program place position (2 * program.size + 2) [way] frontier.reached frontier.waiting

end Frontier

/--
Take the character `c` along the given ways, in order of preference.  A way that
has arrived ends the round: its marks are answered, and less preferred ways are
dropped.  `place` and `position` are those after the character.
-/
def advance (program : Program) (c : Char) (place : Place) (position : Nat) :
    List Way → Frontier → Frontier × Option Marks
  | [], frontier => (frontier, none)
  | way :: rest, frontier =>
      match program[way.step]? with
      | some (.char set) =>
          if set.containsChar c then
            advance program c place position rest
              (frontier.add program place position ⟨way.step + 1, way.marks⟩)
          else advance program c place position rest frontier
      | some .accept => (frontier, some way.marks)
      | _ => advance program c place position rest frontier

def arrived? (program : Program) (ways : List Way) : Option Marks :=
  (ways.find? fun way => program[way.step]? matches some .accept).map (·.marks)

/--
Search from a position on.  `best` are the marks of the best match so far; while
there is none, a way starts at every position, less preferred than those that
started earlier.
-/
def searchFrom (program : Program) (position : Nat) (before : Option Char)
    (best : Option Marks) (frontier : Frontier) : List Char → Option Marks
  | [] =>
      let frontier :=
        if best.isNone then frontier.add program ⟨before, none⟩ position ⟨0, []⟩ else frontier
      (arrived? program frontier.waiting.toList).or best
  | c :: rest =>
      let frontier :=
        if best.isNone then frontier.add program ⟨before, some c⟩ position ⟨0, []⟩ else frontier
      if frontier.waiting.isEmpty && best.isSome then best
      else
        let (next, arrived) :=
          advance program c ⟨some c, rest.head?⟩ (position + 1) frontier.waiting.toList
            ⟨frontier.reached, #[]⟩
        searchFrom program (position + 1) (some c) (arrived.or best) next rest

/-- The marks of the preferred match that starts furthest to the left. -/
def search (program : Program) (text : List Char) : Option Marks :=
  searchFrom program 0 none none ⟨Array.replicate program.size 0, #[]⟩ text

end LogPattern.Regex
