import LogPattern.LogEvent
import LogPattern.Report.Basic

/-!
# Transcripts

All that a command does: the events on its way, the report that it writes and the
error that it ends with.  A command may do both, report and fail.
-/

namespace LogPattern

structure Transcript where
  events : List LogEvent
  report? : Option Report
  error? : Option CommandError

namespace Transcript

def reporting (report : Report) (error? : Option CommandError) : Transcript :=
  ⟨[], some report, error?⟩

def failing (error : CommandError) : Transcript := ⟨[], none, some error⟩

def after (events : List LogEvent) (transcript : Transcript) : Transcript :=
  { transcript with events := events ++ transcript.events }

theorem after_after (events more : List LogEvent) (transcript : Transcript) :
    after events (after more transcript) = after (events ++ more) transcript := by
  rw [after, after, after, List.append_assoc]

/-- Go on with the value of a step, unless the step fails. -/
def proceed (step : Except CommandError α) (next : α → Transcript) : Transcript :=
  match step with
  | .ok value => next value
  | .error e => failing e

/-- Go on with the value of a step behind its events, unless the step fails. -/
def proceedLogged (step : Logged (Except CommandError α)) (next : α → Transcript) :
    Transcript :=
  (proceed step.value next).after step.events

def exitCode (transcript : Transcript) : Nat :=
  match transcript.error? with
  | some e => e.exitCode
  | none => 0

def output (transcript : Transcript) (format : OutputFormat) : String :=
  match transcript.report? with
  | some report => report.output format
  | none => ""

/-- What goes to the standard error besides log records. -/
def errorOutput (transcript : Transcript) : String :=
  match transcript.error? with
  | some e => "error: " ++ e.message ++ "\n"
  | none => ""

/-- A command succeeds exactly if it ends without an error. -/
theorem exitCode_eq_zero_iff (transcript : Transcript) :
    transcript.exitCode = 0 ↔ transcript.error? = none := by
  unfold exitCode
  split
  · next e h => simp [h, e.exitCode_ne_zero]
  · next h => simp [h]

end Transcript

end LogPattern
