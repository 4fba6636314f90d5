import LogPattern.CodePoint.WhiteSpace
import LogPattern.LogEvent
import LogPattern.Pattern.Compiled

/-!
# Lines

A log line is blank, or it is tried on the patterns in order and takes the fields
of the first one that matches.  Matching may break off; then the line has failed,
and the other lines are not concerned.
-/

namespace LogPattern

/-- A line of a log, numbered from 1. -/
structure LogLine where
  number : Nat
  text : String
deriving DecidableEq, Repr

namespace LogLine

def numbered (lines : List String) : List LogLine :=
  (lines.zipIdx 1).map fun (text, number) => ⟨number, text⟩

def isBlank (line : LogLine) : Bool := LogPattern.isBlank line.text

end LogLine

inductive MatchFault where
  | stated (reason : String)
  | unknown
deriving DecidableEq, Repr

namespace MatchFault

def message : MatchFault → String
  | stated reason => reason
  | unknown => "unknown panic"

end MatchFault

/-- Why there is no result of matching a line. -/
inductive LineFailure where
  | matcher (fault : MatchFault)
  | worker
  | stated (reason : String)
deriving DecidableEq, Repr

namespace LineFailure

def message : LineFailure → String
  | matcher fault => "Internal matcher failure: " ++ fault.message
  | worker => "Internal matcher failure: worker task did not complete"
  | stated reason => reason

end LineFailure

inductive LineOutcome where
  | matched (patternIndex : Nat) (fields : FieldMap)
  | empty
  | noMatch
  | failed (failure : LineFailure)
deriving DecidableEq, Repr

inductive OutcomeKind where
  | matched
  | empty
  | noMatch
  | failed
deriving DecidableEq, Repr

namespace OutcomeKind

def label : OutcomeKind → String
  | matched => "matched"
  | empty => "empty"
  | noMatch => "no_match"
  | failed => "failed"

def all : List OutcomeKind := [matched, empty, noMatch, failed]

end OutcomeKind

namespace LineOutcome

def kind : LineOutcome → OutcomeKind
  | matched _ _ => .matched
  | empty => .empty
  | noMatch => .noMatch
  | failed _ => .failed

def fields? : LineOutcome → Option FieldMap
  | matched _ fields => some fields
  | _ => none

def patternIndex? : LineOutcome → Option Nat
  | matched index _ => some index
  | _ => none

def errorMessage? : LineOutcome → Option String
  | matched _ _ => none
  | empty => some "Empty log line"
  | noMatch => some "Pattern did not match this log line"
  | failed failure => some failure.message

end LineOutcome

structure LineResult where
  line : LogLine
  outcome : LineOutcome
deriving DecidableEq, Repr

namespace LineResult

def isMatched (result : LineResult) : Bool := result.outcome.kind = .matched

end LineResult

abbrev Matcher := LogLine → Except MatchFault (Option (Nat × FieldMap))

def firstMatchFrom (index : Nat) : List CompiledPattern → String → Option (Nat × FieldMap)
  | [], _ => none
  | pattern :: rest, line =>
      match pattern.matchLine line with
      | some fields => some (index, fields)
      | none => firstMatchFrom (index + 1) rest line

def firstMatch (patterns : List CompiledPattern) (line : String) : Option (Nat × FieldMap) :=
  firstMatchFrom 0 patterns line

def Matcher.ofPatterns (patterns : List CompiledPattern) : Matcher := fun line =>
  .ok (firstMatch patterns line.text)

def LogLine.process (matcher : Matcher) (line : LogLine) : LineResult :=
  ⟨line,
    if line.isBlank then .empty
    else
      match matcher line with
      | .ok (some (index, fields)) => .matched index fields
      | .ok none => .noMatch
      | .error fault => .failed (.matcher fault)⟩

namespace LineResult

def faultEvents (result : LineResult) : List LogEvent :=
  match result.outcome with
  | .failed (.matcher fault) => [⟨.error, "matcher panicked",
      [("line_number", .number result.line.number), ("reason", .text fault.message)]⟩]
  | _ => []

def events (result : LineResult) : List LogEvent :=
  result.faultEvents ++ [⟨.trace, "line processed",
    [("line_number", .number result.line.number),
      ("result", .text result.outcome.kind.label)]⟩]

end LineResult

end LogPattern
