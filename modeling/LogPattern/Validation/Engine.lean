import LogPattern.Registry.FromSettings
import LogPattern.Settings.Rules
import LogPattern.Validation.Definition
import LogPattern.Validation.Outcome
import LogPattern.Validation.Workers

/-!
# Batch validation

An engine compiles all patterns of a batch and then matches its lines: in order, or
with workers when there are many lines.  A batch with a pattern that does not
compile is refused before any line is matched; a batch that is cancelled has no
outcome at all.
-/

namespace LogPattern

structure Engine where
  registry : Registry
  settings : EngineSettings
  /-- How many workers the machine runs well. -/
  availableWorkers : Nat

inductive RequestProblem where
  | noLines
  | noPatterns
  | tooManyLines (count limit : Nat)
deriving DecidableEq, Repr

namespace RequestProblem

def message : RequestProblem → String
  | noLines => "No log lines provided"
  | noPatterns => "No patterns provided"
  | tooManyLines count limit => s!"Too many log lines: {count} (max {limit})"

end RequestProblem

namespace Engine

def ofSettings (settings : EngineSettings) (availableWorkers : Nat) :
    Logged (Except EngineError Engine) :=
  match settings.check with
  | .error e => ⟨.error e, []⟩
  | .ok () =>
      let made := Registry.ofCustomPatterns settings
      ⟨made.value.map fun registry => ⟨registry, settings, availableWorkers⟩, made.events⟩

def ofRegistry (registry : Registry) (settings : EngineSettings) (availableWorkers : Nat) :
    Except EngineError Engine :=
  match settings.check with
  | .error e => .error e
  | .ok () => .ok ⟨registry, settings, availableWorkers⟩

def workers (engine : Engine) : Nat := engine.settings.workers engine.availableWorkers

def matchesInOrder (engine : Engine) (total : Nat) : Bool :=
  total < engine.settings.parallelThreshold || engine.workers ≤ 1

def compileAll (engine : Engine) (definitions : List PatternDefinition) :
    Recorded (Except (List CompileFailure) (List CompiledPattern)) :=
  PatternDefinition.compileAll engine.registry engine.settings.maxRecursionDepth definitions

/-- Match lines with compiled patterns, unless the batch is cancelled. -/
def matchLines (engine : Engine) (mishaps : Mishaps) (patterns : List CompiledPattern)
    (lines : List LogLine) : WorkerRun :=
  let matcher := (Matcher.ofPatterns patterns).breakingOff mishaps.matchFault?
  if engine.matchesInOrder lines.length then
    let results? := matchInOrder matcher mishaps.cancellation.stopsBefore lines
    ⟨results?, (results?.getD []).flatMap LineResult.events⟩
  else matchWithWorkers matcher mishaps engine.workers lines

def completedEvent (outcome : ValidationOutcome) (patterns : Nat) : LogEvent :=
  ⟨.info, "validation batch completed",
    [("lines", .number outcome.results.length), ("patterns", .number patterns),
      ("matched", .number outcome.matchedCount)]⟩

/-- Compile all patterns, have lines matched with them, and record what comes of it. -/
def validateBy (engine : Engine) (matching : List CompiledPattern → WorkerRun)
    (definitions : List PatternDefinition) : Recorded (Except EngineError ValidationOutcome) :=
  let compiled := engine.compileAll definitions
  match compiled.value with
  | .error failures =>
      ⟨.ok (.failed (CompileFailure.summary failures definitions.length)),
        compiled.events, compiled.metrics⟩
  | .ok patterns =>
      let run := matching patterns
      let events := compiled.events ++ run.events
      match run.results? with
      | none => ⟨.error .cancelled, events, compiled.metrics⟩
      | some results =>
          let outcome := ValidationOutcome.completed results
          ⟨.ok outcome, events ++ [completedEvent outcome definitions.length],
            compiled.metrics ++ MetricUpdate.ofResults results ++ [⟨.validationDuration, 1⟩]⟩

/-- Validate lines while this and that befalls the run. -/
def validateAmid (engine : Engine) (mishaps : Mishaps) (logLines : List String)
    (definitions : List PatternDefinition) : Recorded (Except EngineError ValidationOutcome) :=
  engine.validateBy (engine.matchLines mishaps · (LogLine.numbered logLines)) definitions

def validate (engine : Engine) (mishaps : Mishaps) (logLines : List String)
    (definitions : List PatternDefinition) : Recorded ValidationOutcome :=
  let run := engine.validateAmid mishaps logLines definitions
  ⟨match run.value with
    | .ok outcome => outcome
    | .error e => .failed e.message,
    run.events, run.metrics⟩

def requestProblem? (engine : Engine) (request : ValidationRequest) : Option RequestProblem :=
  if request.logLines.isEmpty then some .noLines
  else if request.patterns.isEmpty then some .noPatterns
  else if request.logLines.length > engine.settings.maxLines then
    some (.tooManyLines request.logLines.length engine.settings.maxLines)
  else none

def handleRequest (engine : Engine) (request : ValidationRequest) : Recorded ValidationOutcome :=
  match engine.requestProblem? request with
  | some problem => ⟨.failed problem.message, [], []⟩
  | none =>
      engine.validate .none request.logLines
        (request.patterns.map fun input => ⟨none, input.name, input.pattern⟩)

end Engine

end LogPattern
