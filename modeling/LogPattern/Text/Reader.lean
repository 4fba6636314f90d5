/-!
# Readers

A reader takes a value from the front of a text and answers it with the rest, or
nothing if the text does not begin with such a value.

Every reader is told a limit that is greater than the length of the text.  It bounds
the steps of a loop, and never stops one: a step takes a character at least.
-/

namespace LogPattern

abbrev Reader (α : Type) := (limit : Nat) → List Char → Option (α × List Char)

namespace Reader

/-- Read a text that has one value and nothing after it but what `skip` passes over. -/
def readWhole {α : Type} (read : Reader α) (skip : List Char → List Char) (text : String) :
    Option α :=
  match read (text.length + 1) text.toList with
  | some (value, rest) => if (skip rest).isEmpty then some value else none
  | none => none

end Reader

end LogPattern
