import LogPattern.Validation.Cancellation

/-!
# Matching in order and with workers

Lines are matched one after the other, or they are dealt out to workers in runs of
equal length.  Workers finish in any order, so every result is put in the place of
its line; where a worker died, the lines it had have failed.
-/

namespace LogPattern

/--
Match lines in order.  The answer is empty if the batch is found cancelled before
one of them.  `done` are the results so far, last first.
-/
def matchInOrderFrom (matcher : Matcher) (stops : LogLine → Bool) (done : List LineResult) :
    List LogLine → Option (List LineResult)
  | [] => some done.reverse
  | line :: rest =>
      if stops line then none
      else matchInOrderFrom matcher stops (line.process matcher :: done) rest

/-- Match lines in order, unless the batch is cancelled on the way. -/
def matchInOrder (matcher : Matcher) (stops : LogLine → Bool) (lines : List LogLine) :
    Option (List LineResult) :=
  matchInOrderFrom matcher stops [] lines

def chunkSize (total workers : Nat) : Nat := max 1 ((total + workers - 1) / workers)

/-- Runs of `size + 1` lines, the last one with what is left. -/
def chunksFrom (size : Nat) (lines : List LogLine) : List (List LogLine) :=
  match lines with
  | [] => []
  | line :: rest => (line :: rest.take size) :: chunksFrom size (rest.drop size)
termination_by lines.length
decreasing_by
  simp only [List.length_drop, List.length_cons]
  omega

def chunks (lines : List LogLine) (workers : Nat) : List (List LogLine) :=
  chunksFrom (chunkSize lines.length workers - 1) lines

/-- What a worker leaves behind. -/
inductive WorkerReport where
  | finished (results : List LineResult)
  | died
deriving DecidableEq, Repr

namespace WorkerReport

def results : WorkerReport → List LineResult
  | finished results => results
  | died => []

/-- The report of a worker that nothing stops but its death. -/
def ofChunk (matcher : Matcher) (kills : LogLine → Bool) (chunk : List LogLine) : WorkerReport :=
  if chunk.any kills then died else finished (chunk.map (LogLine.process matcher))

end WorkerReport

/-- Results by the place of their line, as far as they have come in. -/
abbrev ResultSlots := Array (Option LineResult)

namespace ResultSlots

def put (slots : ResultSlots) (result : LineResult) : ResultSlots :=
  slots.setIfInBounds (result.line.number - 1) (some result)

def join (slots : ResultSlots) (report : WorkerReport) : ResultSlots :=
  report.results.foldl put slots

/-- One result for each line: the one in its place, or else that its worker failed. -/
def fill (slots : ResultSlots) (lines : List LogLine) : List LineResult :=
  (slots.toList.zip lines).map fun (slot, line) => slot.getD ⟨line, .failed .worker⟩

end ResultSlots

def collectReports (lines : List LogLine) (reports : List WorkerReport) : List LineResult :=
  (reports.foldl ResultSlots.join (Array.replicate lines.length none)).fill lines

/--
The lines of a chunk that its worker processes: up to the first that it dies after.
-/
def processedLines (kills : LogLine → Bool) : List LogLine → List LogLine
  | [] => []
  | line :: rest => if kills line then [line] else line :: processedLines kills rest

/-- The batch is cancelled before the last worker has finished. -/
def Cancellation.strikes (cancellation : Cancellation) (kills : LogLine → Bool)
    (chunks : List (List LogLine)) : Bool :=
  match cancellation with
  | .never => false
  | .beforehand => true
  | .afterLine number =>
      chunks.any fun chunk => (processedLines kills chunk).any (·.number = number)
  | .afterWorkers => false

/-- Matching with workers: the results, or that the batch was cancelled. -/
structure WorkerRun where
  results? : Option (List LineResult)
  events : List LogEvent

/-- Match lines with workers that finish in the order of their chunks. -/
def matchWithWorkers (matcher : Matcher) (mishaps : Mishaps) (workers : Nat)
    (lines : List LogLine) : WorkerRun :=
  let chunks := chunks lines workers
  let dispatched : LogEvent := ⟨.debug, "dispatched line matching",
    [("lines", .number lines.length), ("workers", .number workers),
      ("chunk_size", .number (chunkSize lines.length workers)),
      ("tasks", .number chunks.length)]⟩
  if mishaps.cancellation.strikes mishaps.killsWorker chunks then
    ⟨none, [dispatched,
      ⟨.debug, "validation cancelled", [("lines", .number lines.length)]⟩]⟩
  else
    let reports := chunks.map (WorkerReport.ofChunk matcher mishaps.killsWorker)
    let results := (reports.map WorkerReport.results).flatten
    let deaths := reports.filter (· = .died)
    ⟨if mishaps.cancellation = .afterWorkers then none
      else some (collectReports lines reports),
      dispatched :: results.flatMap LineResult.events ++
        deaths.map fun _ => ⟨.warn, "line matching worker failed", []⟩⟩

end LogPattern
