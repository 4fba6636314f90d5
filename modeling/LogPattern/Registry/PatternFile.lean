import LogPattern.CodePoint.WhiteSpace
import LogPattern.LogEvent
import LogPattern.Registry.Basic

/-!
# Pattern files

A pattern file defines one pattern on a line: a name, white space, and a fragment.
Blank lines and lines that start with `#` say nothing.  A line that is neither is
reported and passed over.
-/

namespace LogPattern

inductive PatternLine where
  | nothing
  | definition (pattern : NamedFragment)
  | noFragment
  | invalidName (name : String)
deriving DecidableEq, Repr

namespace PatternLine

def ofText (line : String) : PatternLine :=
  let text := trim line.toList
  match text with
  | [] => nothing
  | '#' :: _ => nothing
  | _ =>
      match splitAtWhite text with
      | none => noFragment
      | some (name, rest) =>
          let name := String.ofList name
          if isPatternName name then definition ⟨name, String.ofList (trimLeft rest)⟩
          else invalidName name

def pattern? : PatternLine → Option NamedFragment
  | definition pattern => some pattern
  | _ => none

def warning? (source : String) (number : Nat) : PatternLine → Option LogEvent
  | noFragment => some ⟨.warn, "pattern definition has no regex, skipping",
      [("source", .text source), ("line", .number number)]⟩
  | invalidName name => some ⟨.warn, "invalid pattern name, skipping",
      [("source", .text source), ("line", .number number), ("name", .text name)]⟩
  | _ => none

end PatternLine

/-- The patterns that a text defines, with warnings about the lines passed over. -/
def readPatterns (content source : String) : Logged (List NamedFragment) :=
  let lines := (linesOf content).map PatternLine.ofText
  ⟨lines.filterMap PatternLine.pattern?,
    (lines.zipIdx 1).filterMap fun (line, number) => line.warning? source number⟩

end LogPattern
