import LogPattern.Report.Basic
import LogPattern.Text.Column
import LogPattern.Text.Quoted
import LogPattern.Validation.Envelope

/-!
# Reports on batches

A table with a row for each line of the batch: its number, what became of it, and the
fields it matched with or the reason that it did not.
-/

namespace LogPattern

/-- What became of a batch, with the names of its patterns in order. -/
structure ValidationReport where
  outcome : ValidationOutcome
  patternNames : List String

namespace ValidationReport

def field (entry : String × String) : String := entry.1 ++ "=" ++ Text.quoted entry.2

def matchDetail (names : List String) (patternIndex : Nat) (fields : FieldMap) : String :=
  "[" ++ names.getD patternIndex "?" ++ "] " ++ " ".intercalate (fields.entries.map field)

def row (number status detail : String) : String :=
  Text.alignRight 6 number ++ "  " ++ Text.alignLeft 8 status ++ " " ++ detail

def resultRow (names : List String) (result : LineResult) : String :=
  let number := toString result.line.number
  match result.outcome with
  | .matched patternIndex fields => row number "MATCH" (matchDetail names patternIndex fields)
  | .failed failure => row number "ERROR" failure.message
  | other => row number "NOMATCH" (other.errorMessage?.getD "")

def summary (outcome : ValidationOutcome) : String :=
  let total := outcome.results.length
  let matched := outcome.matchedCount
  s!"Validation: {total} lines, {matched} matched, {total - matched} unmatched"

def textLines (report : ValidationReport) : List String :=
  if report.outcome.success then
    [summary report.outcome, "", row "Line" "Status" "Detail", Text.rule 72] ++
      report.outcome.results.map (resultRow report.patternNames)
  else ["Validation failed: " ++ report.outcome.error?.getD "unknown error"]

/-- In JSON the report is the outcome alone. -/
def report (report : ValidationReport) : Report :=
  ⟨linesText report.textLines, report.outcome.json⟩

end ValidationReport

end LogPattern
