import LogPattern.CodePoint.WhiteSpace
import LogPattern.LogEvent
import LogPattern.Settings.Basic
import LogPattern.Text.Digit

/-!
# Settings from the environment

A variable of the environment takes the place of a setting.  A size is written in
decimal digits, at least one, after a plus sign if one likes.  Sizes that cannot be
read are reported and leave the setting as it is.
-/

namespace LogPattern

def readSize? (text : String) : Option Nat :=
  let digits := match text.toList with
    | '+' :: rest => rest
    | all => all
  (digitsValue? 10 digits).filter (· ≤ maxSize)

abbrev Environment := String → Option String

namespace Environment

def empty : Environment := fun _ => none

def text (environment : Environment) (key old : String) : String := (environment key).getD old

def unreadableSize (key value : String) : LogEvent :=
  ⟨.warn, "failed to parse usize from env var, ignoring",
    [("env_key", .text key), ("value", .text value)]⟩

def size (environment : Environment) (key : String) (old : Nat) : Nat :=
  ((environment key).bind readSize?).getD old

def sizeWarning? (environment : Environment) (key : String) : Option LogEvent :=
  match environment key with
  | none => none
  | some value => if (readSize? value).isSome then none else some (unreadableSize key value)

/-- The items of a list with commas between them, without empty ones. -/
def commaList (text : String) : List String :=
  ((text.splitOn ",").map trimText).filter (!·.isEmpty)

def list (environment : Environment) (key : String) (old : List String) : List String :=
  ((environment key).map commaList).getD old

end Environment

namespace Settings

def logLevelKey : String := "GROKLINE_GENERAL_LOG_LEVEL"

def logFormatKey : String := "GROKLINE_GENERAL_LOG_FORMAT"

def maxRecursionDepthKey : String := "GROKLINE_ENGINE_MAX_RECURSION_DEPTH"

def workerThreadsKey : String := "GROKLINE_ENGINE_WORKER_THREADS"

def parallelThresholdKey : String := "GROKLINE_ENGINE_PARALLEL_THRESHOLD"

def maxLinesKey : String := "GROKLINE_ENGINE_MAX_LINES"

def patternDirsKey : String := "GROKLINE_ENGINE_PATTERN_DIRS"

def environmentKeys : List String :=
  [logLevelKey, logFormatKey, maxRecursionDepthKey, workerThreadsKey, parallelThresholdKey,
    maxLinesKey, patternDirsKey]

def override (settings : Settings) (environment : Environment) : Settings :=
  let general := settings.general
  let engine := settings.engine
  ⟨⟨environment.text logLevelKey general.logLevel,
      environment.text logFormatKey general.logFormat⟩,
    ⟨environment.size maxRecursionDepthKey engine.maxRecursionDepth,
      environment.size workerThreadsKey engine.workerThreads,
      environment.size parallelThresholdKey engine.parallelThreshold,
      environment.size maxLinesKey engine.maxLines,
      environment.list patternDirsKey engine.patternDirs,
      engine.customPatterns⟩⟩

def overrideWarnings (environment : Environment) : List LogEvent :=
  [maxRecursionDepthKey, workerThreadsKey, parallelThresholdKey, maxLinesKey].filterMap
    environment.sizeWarning?

end Settings

end LogPattern
