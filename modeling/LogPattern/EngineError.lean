import LogPattern.FileTree
import LogPattern.Pattern.Error

/-!
# Errors of the engine
-/

namespace LogPattern

inductive LoadProblem where
  | directory (fault : FileFault)
  | directoryEntry (fault : FileFault)
  | tooManyPatterns (limit : Nat)
  | metadata (fault : FileFault)
  | tooLarge (size limit : Nat)
  | reading (fault : FileFault)
  | malformedYaml
  /-- Well-formed, but not of the expected shape. -/
  | unexpectedYaml
  | noDefinitions
  | stated (reason : String)
deriving DecidableEq, Repr

namespace LoadProblem

/--
What is said about a problem.  The words in which the YAML parser describes malformed
text are not modelled: `<yaml error>` is a mark in their place.
-/
def message : LoadProblem → String
  | directory fault => "failed to read directory: " ++ fault.message
  | directoryEntry fault => "failed to read directory entry: " ++ fault.message
  | tooManyPatterns limit => s!"too many patterns: max {limit}"
  | metadata fault => "failed to read file metadata: " ++ fault.message
  | tooLarge size limit => s!"file too large: {size} bytes (max: {limit})"
  | reading fault => "failed to read file: " ++ fault.message
  | malformedYaml => "YAML parse error: <yaml error>"
  | unexpectedYaml =>
      "YAML parse error: data did not match any variant of untagged enum DefinitionFile"
  | noDefinitions => "no pattern definitions found"
  | stated reason => reason

end LoadProblem

inductive EngineError where
  | compile (pattern : String) (cause : CompileError)
  | patternLoad (path : String) (problem : LoadProblem)
  | invalidPatternName (name reason : String)
  | config (field reason : String)
  | cancelled
  | io (fault : FileFault)
deriving DecidableEq, Repr

namespace EngineError

def message : EngineError → String
  | compile pattern cause =>
      "compile error in pattern '" ++ pattern ++ "': " ++ cause.message
  | patternLoad path problem => "pattern load error: " ++ path ++ ": " ++ problem.message
  | invalidPatternName name reason =>
      "invalid pattern name '" ++ name ++ "': " ++ reason
  | config field reason => "config error: " ++ field ++ ": " ++ reason
  | cancelled => "validation cancelled"
  | io fault => "io error: " ++ fault.message

/-- The message where the error is one of the program's errors among others. -/
def nestedMessage (e : EngineError) : String := "engine error: " ++ e.message

def kind : EngineError → String
  | compile _ _ => "Compile"
  | patternLoad _ _ => "PatternLoad"
  | invalidPatternName _ _ => "InvalidPatternName"
  | config _ _ => "Config"
  | cancelled => "Cancelled"
  | io _ => "Io"

def causeMessage? : EngineError → Option String
  | compile _ cause => some cause.message
  | io fault => some fault.message
  | _ => none

end EngineError

end LogPattern
