import LogPattern.Validation.Line

/-!
# Metrics

Counters and duration samples.  What a call records is a list of updates; totals
come from the updates of all calls.
-/

namespace LogPattern

inductive Metric where
  | patternsCompiled
  | compileErrors
  | linesProcessed
  | validationDuration
deriving DecidableEq, Repr

namespace Metric

def all : List Metric := [patternsCompiled, compileErrors, linesProcessed, validationDuration]

def name : Metric → String
  | patternsCompiled => "grokline_patterns_compiled_total"
  | compileErrors => "grokline_compile_errors_total"
  | linesProcessed => "grokline_lines_processed_total"
  | validationDuration => "grokline_validation_duration_seconds"

def description : Metric → String
  | patternsCompiled => "Total number of pattern definitions compiled successfully"
  | compileErrors => "Total number of pattern compile failures by kind"
  | linesProcessed => "Total number of log lines processed by outcome"
  | validationDuration => "Wall-clock duration of one validation batch"

def form : Metric → String
  | validationDuration => "histogram"
  | _ => "counter"

end Metric

/-- A counter or histogram; some metrics have several, told apart by a label. -/
inductive Series where
  | patternsCompiled
  | compileErrors (kind : String)
  | linesProcessed (kind : OutcomeKind)
  | validationDuration
deriving DecidableEq, Repr

namespace Series

def metric : Series → Metric
  | patternsCompiled => .patternsCompiled
  | compileErrors _ => .compileErrors
  | linesProcessed _ => .linesProcessed
  | validationDuration => .validationDuration

def label? : Series → Option (String × String)
  | compileErrors kind => some ("kind", kind)
  | linesProcessed kind => some ("result", kind.label)
  | _ => none

end Series

/-- An addition to a counter, or so many samples of a histogram. -/
structure MetricUpdate where
  series : Series
  amount : Nat
deriving DecidableEq, Repr

namespace MetricUpdate

def total (updates : List MetricUpdate) (series : Series) : Nat :=
  (updates.filter (·.series = series)).foldl (fun total update => total + update.amount) 0

/-- The series that the updates mention, each once, in the order of their first mention. -/
def touched (updates : List MetricUpdate) : List Series :=
  (updates.map (·.series)).eraseDups

def ofResults (results : List LineResult) : List MetricUpdate :=
  (OutcomeKind.all.map fun kind =>
    ⟨.linesProcessed kind, results.countP (·.outcome.kind = kind)⟩).filter (0 < ·.amount)

end MetricUpdate

/-- A result with the events and metric updates on the way to it. -/
structure Recorded (α : Type) where
  value : α
  events : List LogEvent
  metrics : List MetricUpdate

end LogPattern
