import LogPattern.Registry.Basic
import LogPattern.Validation.Metric

/-!
# Pattern definitions

Patterns as a user gives them.  All definitions of a batch are compiled before any
line is matched, and every one that fails is reported.
-/

namespace LogPattern

/-- A pattern with a name for reports; several may have the same name. -/
structure PatternDefinition where
  /-- The identifier, unless one is to be made up. -/
  id? : Option String
  name : String
  pattern : String
deriving DecidableEq, Repr

structure CompileFailure where
  index : Nat
  patternName : String
  cause : CompileError
deriving DecidableEq, Repr

namespace CompileFailure

def message (failure : CompileFailure) : String :=
  "'" ++ failure.patternName ++ "' (" ++ failure.cause.kind ++ "): " ++ failure.cause.message

def summary (failures : List CompileFailure) (total : Nat) : String :=
  s!"{failures.length} of {total} patterns failed to compile: " ++
    "; ".intercalate (failures.map message)

def event (failure : CompileFailure) : LogEvent :=
  ⟨.warn, "pattern failed to compile",
    [("pattern", .text failure.patternName), ("index", .number failure.index),
      ("kind", .text failure.cause.kind), ("error", .text failure.cause.message)]⟩

end CompileFailure

def CompiledPattern.event (pattern : CompiledPattern) : LogEvent :=
  ⟨.trace, "pattern compiled",
    [("pattern", .text pattern.source), ("regex", .text pattern.expanded),
      ("fields", .number pattern.fields.length)]⟩

namespace PatternDefinition

def attempts (registry : Registry) (maxDepth : Nat) (definitions : List PatternDefinition) :
    List (Except CompileFailure CompiledPattern) :=
  definitions.zipIdx.map fun (definition, index) =>
    (CompiledPattern.compile registry.lookup? maxDepth definition.pattern).mapError
      fun cause => ⟨index, definition.name, cause⟩

def failure? : Except CompileFailure CompiledPattern → Option CompileFailure
  | .error failure => some failure
  | .ok _ => none

def attemptEvent : Except CompileFailure CompiledPattern → LogEvent
  | .error failure => failure.event
  | .ok pattern => pattern.event

/-- Compile all definitions: the patterns in order, or else all failures in order. -/
def compileAll (registry : Registry) (maxDepth : Nat) (definitions : List PatternDefinition) :
    Recorded (Except (List CompileFailure) (List CompiledPattern)) :=
  let attempts := attempts registry maxDepth definitions
  let failures := attempts.filterMap failure?
  let events := attempts.map attemptEvent
  if failures.isEmpty then
    let patterns := attempts.filterMap Except.toOption
    ⟨.ok patterns, events, [⟨.patternsCompiled, patterns.length⟩]⟩
  else
    ⟨.error failures, events,
      failures.map fun failure => ⟨.compileErrors failure.cause.kind, 1⟩⟩

end PatternDefinition

end LogPattern
