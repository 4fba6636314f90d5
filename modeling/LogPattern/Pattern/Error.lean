import LogPattern.Regex.Fault

/-!
# Why a pattern does not compile
-/

namespace LogPattern

/-- What is wrong with the regular expression of a pattern. -/
inductive RegexProblem where
  /-- The expansion passed the limit of so many bytes inside the named top-level pattern. -/
  | tooLong (limit : Nat) (origin : Option String)
  /-- The expression is no regular expression, or too large a one. -/
  | refused (fault : Regex.Fault)
  | groupsDiffer (groups fields : Nat)
  /-- A problem reported in words. -/
  | stated (reason : String)
deriving DecidableEq, Repr

namespace RegexProblem

/-- What is said about a problem, up to the parser's own words about a refused expression. -/
def message : RegexProblem → String
  | tooLong limit origin =>
      s!"expanded pattern exceeds {limit} bytes while expanding '" ++
        origin.getD "<top level>" ++ "'"
  | refused fault => fault.message
  | groupsDiffer groups fields =>
      s!"capture group count {groups} does not match field count {fields}"
  | stated reason => reason

end RegexProblem

inductive CompileError where
  | emptyPattern
  /-- No pattern has the name; `position` is the offset of the top-level token that led there. -/
  | unknownReference (name : String) (position : Nat)
  /-- The references from a top-level token lead back to a name among them. -/
  | cyclicReference (chain : List String)
  | tooDeep (depth : Nat) (name : String)
  | invalidRegex (problem : RegexProblem)
deriving DecidableEq, Repr

namespace CompileError

def message : CompileError → String
  | emptyPattern => "pattern text is empty"
  | unknownReference name position =>
      "unknown pattern reference '" ++ name ++ s!"' at offset {position}"
  | cyclicReference chain => "cyclic pattern reference: " ++ " -> ".intercalate chain
  | tooDeep depth name =>
      s!"max recursion depth {depth} exceeded while expanding '" ++ name ++ "'"
  | invalidRegex problem => "invalid regex syntax: " ++ problem.message

def kind : CompileError → String
  | emptyPattern => "EmptyPattern"
  | unknownReference _ _ => "UnknownPatternReference"
  | cyclicReference _ => "CyclicPatternReference"
  | tooDeep _ _ => "MaxRecursionDepthExceeded"
  | invalidRegex _ => "InvalidRegexSyntax"

end CompileError

end LogPattern
