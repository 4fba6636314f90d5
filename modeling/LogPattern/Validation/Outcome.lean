import LogPattern.Validation.Line

/-!
# Requests and outcomes
-/

namespace LogPattern

structure NamedPattern where
  name : String
  pattern : String
deriving DecidableEq, Repr

/-- Lines to be validated, with the patterns in the order of trying. -/
structure ValidationRequest where
  logLines : List String
  patterns : List NamedPattern
deriving DecidableEq, Repr

structure ValidationOutcome where
  success : Bool
  results : List LineResult
  error? : Option String
deriving DecidableEq, Repr

namespace ValidationOutcome

/-- A batch that went through, with one result for each line. -/
def completed (results : List LineResult) : ValidationOutcome := ⟨true, results, none⟩

def failed (reason : String) : ValidationOutcome := ⟨false, [], some reason⟩

def matchedCount (outcome : ValidationOutcome) : Nat := outcome.results.countP LineResult.isMatched

end ValidationOutcome

end LogPattern
