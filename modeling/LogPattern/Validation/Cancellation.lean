import LogPattern.Validation.Line

/-!
# Cancellation and mishaps

A batch may be cancelled at any moment, and a worker may die.  When and where is
given to a run as data, so that the outcome of a run is a function of its inputs.
-/

namespace LogPattern

inductive Cancellation where
  | never
  | beforehand
  /-- As soon as the line with the number has been processed. -/
  | afterLine (number : Nat)
  /-- After all workers have finished, before their results are used. -/
  | afterWorkers
deriving DecidableEq, Repr

namespace Cancellation

/-- A run through the lines in order finds the batch cancelled when it comes to a line. -/
def stopsBefore (cancellation : Cancellation) (line : LogLine) : Bool :=
  match cancellation with
  | never => false
  | beforehand => true
  | afterLine number => 0 < number && number < line.number
  | afterWorkers => false

end Cancellation

/-- What befalls a run. -/
structure Mishaps where
  matchFault? : LogLine → Option MatchFault
  killsWorker : LogLine → Bool
  cancellation : Cancellation

namespace Mishaps

def none : Mishaps := ⟨fun _ => .none, fun _ => false, .never⟩

def ofCancellation (cancellation : Cancellation) : Mishaps := { none with cancellation }

end Mishaps

/-- Matching that breaks off where it is said to, and else goes on as it would. -/
def Matcher.breakingOff (matcher : Matcher) (fault? : LogLine → Option MatchFault) : Matcher :=
  fun line =>
    match fault? line with
    | some fault => .error fault
    | none => matcher line

end LogPattern
