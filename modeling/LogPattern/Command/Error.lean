import LogPattern.Settings.Rules

/-!
# Errors of commands

A command that fails says why, and ends with an exit code for the kind of failure.
-/

namespace LogPattern

inductive CommandError where
  | settings (detail : String)
  | refused (reason : String)
  | patterns (summary : String)
  | json
  | file (fault : FileFault)
  | engine (cause : EngineError)
deriving DecidableEq, Repr

namespace CommandError

/--
What is said about a failure.  The parser's own words about a malformed request, which would
follow, are not modelled.
-/
def message : CommandError → String
  | settings detail => "configuration error: " ++ detail
  | refused reason => reason
  | patterns summary => "compile error: " ++ summary
  | json => "json error: "
  | file fault => "io error: " ++ fault.message
  | engine cause => cause.message

def engineExitCode : EngineError → Nat
  | .compile _ _ => 3
  | .config _ _ => 2
  | .invalidPatternName _ _ => 2
  | .io _ => 10
  | .patternLoad _ _ => 10
  | .cancelled => 1

/-- The exit code: 2 for settings, 3 for patterns, 10 for files and 1 for anything else. -/
def exitCode : CommandError → Nat
  | settings _ => 2
  | patterns _ => 3
  | file _ => 10
  | engine cause => engineExitCode cause
  | json => 1
  | refused _ => 1

def ofSettingsError : SettingsError → CommandError
  | .unreadable fault => file fault
  | e => settings e.detail

/-- No failure is taken for a success. -/
theorem exitCode_ne_zero (e : CommandError) : e.exitCode ≠ 0 := by
  cases e with
  | engine cause => cases cause <;> simp [exitCode, engineExitCode]
  | _ => simp [exitCode]

end CommandError

end LogPattern
