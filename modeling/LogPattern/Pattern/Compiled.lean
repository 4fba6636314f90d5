import LogPattern.Pattern.Expansion
import LogPattern.Pattern.FieldMap
import LogPattern.Regex.Basic

/-!
# Compiled patterns

A compiled pattern is a regular expression with as many groups as it has fields.
On a line it answers the fields of the leftmost match: group by group, the part of
the line that the group took.
-/

namespace LogPattern

/-- The number of references on the way to a fragment, unless set otherwise. -/
def defaultMaxDepth : Nat := 50

structure CompiledPattern where
  source : String
  /-- The text of the regular expression. -/
  expanded : String
  regex : Regex
  fields : List Field

namespace CompiledPattern

def compile (lookup : Lookup) (maxDepth : Nat) (text : String) :
    Except CompileError CompiledPattern :=
  match Expansion.ofText lookup maxDepth text with
  | .error e => .error e
  | .ok expansion =>
      match Regex.ofText? expansion.text.toList with
      | .error fault => .error (.invalidRegex (.refused fault))
      | .ok regex =>
          let fields := expansion.fields.toList
          if regex.captureCount = fields.length then
            .ok ⟨text, expansion.text, regex, fields⟩
          else .error (.invalidRegex (.groupsDiffer regex.captureCount fields.length))

def fieldNames (pattern : CompiledPattern) : List String := pattern.fields.map (·.name)

/--
The fields that took part, with their values: each field by the span of its group.
Of several fields with one name the last value stays, at the first one's place.
-/
def fieldMap (fields : List Field) (groups : List (Option Regex.Span)) (line : List Char) :
    FieldMap :=
  (fields.zip groups).foldl (fun map (field, span) =>
    match span with
    | none => map
    | some span => map.insert field.name (String.ofList (span.slice line))) .empty

def matchLine (pattern : CompiledPattern) (line : String) : Option FieldMap :=
  (pattern.regex.captures? line.toList).map fun spans =>
    fieldMap pattern.fields spans.tail line.toList

end CompiledPattern

end LogPattern
