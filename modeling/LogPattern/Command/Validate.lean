import LogPattern.CodePoint.WhiteSpace
import LogPattern.Command.Invocation
import LogPattern.Command.Transcript
import LogPattern.Report.Validation
import LogPattern.Validation.DefinitionFile
import LogPattern.Validation.Engine

/-!
# The command that validates

Either a request is read from a file and answered, or patterns and lines are gathered
from several sources and validated.  In both cases the outcome is reported first; if
the batch was refused, the command fails then.
-/

namespace LogPattern

structure Surroundings where
  files : FileTree
  input : ByteArray
  environment : Environment
  /-- How many workers the machine runs well. -/
  availableWorkers : Nat
  interruption : Cancellation

namespace Surroundings

def readFile (around : Surroundings) (path : String) : Except CommandError String :=
  (around.files.readText path).mapError .file

def readInput (around : Surroundings) : Except CommandError String :=
  match String.fromUTF8? around.input with
  | some text => .ok text
  | none => .error (.file .notUtf8)

def engineSettings (settings : EngineSettings) (directories : List String) :
    Except CommandError EngineSettings :=
  let settings := directories.foldl EngineSettings.addDirectory settings
  match settings.check with
  | .ok () => .ok settings
  | .error e => .error (.engine e)

def registry (around : Surroundings) (settings : EngineSettings) :
    Logged (Except CommandError Registry) :=
  let made := Registry.ofSettings around.files settings
  ⟨made.value.mapError .engine, made.events⟩

def engine (around : Surroundings) (registry : Registry) (settings : EngineSettings) :
    Except CommandError Engine :=
  (Engine.ofRegistry registry settings around.availableWorkers).mapError .engine

def reportOutcome (outcome : ValidationOutcome) (patternNames : List String)
    (failure : String → CommandError) : Transcript :=
  .reporting (ValidationReport.mk outcome patternNames).report
    (if outcome.success then none else outcome.error?.map failure)

def requestEvent (path : String) : LogEvent :=
  ⟨.info, "validating request envelope", [("path", .text path)]⟩

def readRequest (around : Surroundings) (path : String) :
    Except CommandError ValidationRequest :=
  match around.readFile path with
  | .error e => .error e
  | .ok text =>
      match ValidationRequest.ofText? text with
      | some request => .ok request
      | none => .error .json

def answerRequest (around : Surroundings) (engine : Engine) (path : String) : Transcript :=
  .after [requestEvent path] <| .proceed (around.readRequest path) fun request =>
    let answer := engine.handleRequest request
    .after answer.events
      (reportOutcome answer.value (request.patterns.map (·.name)) .refused)

/-- Patterns given one by one are named by their places, counted from 1. -/
def numberedDefinitions (patterns : List String) : List PatternDefinition :=
  (patterns.zipIdx 1).map fun (pattern, place) => ⟨none, s!"pattern-{place}", pattern⟩

def gatherDefinitions (around : Surroundings) (sources : BatchSources) :
    Logged (Except CommandError (List PatternDefinition)) :=
  let first := numberedDefinitions sources.patterns
  match sources.definitions? with
  | none => ⟨.ok first, []⟩
  | some path =>
      match PatternDefinition.ofFile around.files path with
      | .error e => ⟨.error (.engine e), []⟩
      | .ok more => ⟨.ok (first ++ more), [PatternDefinition.loadedEvent path more.length]⟩

def gatherLines (around : Surroundings) (sources : BatchSources) :
    Except CommandError (List String) :=
  match sources.logFile? with
  | some path => (around.readFile path).map linesOf
  | none => around.readInput.map linesOf

def refuse (problem : RequestProblem) : Except CommandError α := .error (.refused problem.message)

def checkDefinitions (definitions : List PatternDefinition) : Except CommandError Unit :=
  if definitions.isEmpty then refuse .noPatterns else .ok ()

def checkLines (lines : List String) (limit : Nat) : Except CommandError Unit :=
  if lines.isEmpty then refuse .noLines
  else if lines.length > limit then refuse (.tooManyLines lines.length limit)
  else .ok ()

def batchEvent (lines patterns : Nat) : LogEvent :=
  ⟨.info, "validating log lines", [("lines", .number lines), ("patterns", .number patterns)]⟩

def interruptEvent : LogEvent := ⟨.warn, "interrupt received, cancelling validation", []⟩

/-- Validate lines, unless the user interrupts. -/
def validateLines (around : Surroundings) (engine : Engine) (lines : List String)
    (definitions : List PatternDefinition) : Transcript :=
  let run := engine.validateAmid (.ofCancellation around.interruption) lines definitions
  .after run.events <|
    match run.value with
    | .ok outcome => reportOutcome outcome (definitions.map (·.name)) .patterns
    | .error e =>
        .after (if e = .cancelled then [interruptEvent] else []) (.failing (.engine e))

def validateBatch (around : Surroundings) (engine : Engine) (sources : BatchSources) :
    Transcript :=
  .proceedLogged (around.gatherDefinitions sources) fun definitions =>
    .proceed (checkDefinitions definitions) fun () =>
      .proceed (around.gatherLines sources) fun lines =>
        .proceed (checkLines lines engine.settings.maxLines) fun () =>
          .after [batchEvent lines.length definitions.length]
            (around.validateLines engine lines definitions)

def withEngine (around : Surroundings) (settings : EngineSettings) (directories : List String)
    (next : Engine → Transcript) : Transcript :=
  .proceed (engineSettings settings directories) fun settings =>
    .proceedLogged (around.registry settings) fun registry =>
      .proceed (around.engine registry settings) next

end Surroundings

end LogPattern
