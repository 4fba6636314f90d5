import LogPattern.Proofs.Validation.Progress
import LogPattern.Validation.Engine

/-!
# Cancelled batches have no results

A batch that is cancelled before its last look for cancellation returns no results at
all, and one that returns results has not been cut short: the loop is left only when all
workers are joined, and a worker that stops early has seen the batch cancelled before.
-/

namespace LogPattern

namespace Batch

variable {matcher : Matcher} {texts : List String} {workers : Nat} {lines : List LogLine}
  {batch next : Batch} {events : List BatchEvent}

/-! ## Results that are not returned -/

def Open (batch : Batch) : Prop := ∀ results, batch.phase ≠ .returned (some results)

/-- The batch is cancelled and has not returned results, so it never will. -/
def Doomed (batch : Batch) : Prop := batch.cancelled = true ∧ batch.Open

theorem Step.open {event : BatchEvent} (hstep : batch.Step matcher lines event next)
    (hopen : batch.Open) (hcheck : event ≠ .check) : next.Open := by
  intro results hphase
  rcases hstep.phase_returned hphase with hbefore | ⟨-, hnone⟩ | ⟨hevent, -⟩
  · exact hopen results hbefore
  · cases hnone
  · exact hcheck hevent

theorem Step.doomed {event : BatchEvent} (hstep : batch.Step matcher lines event next)
    (h : batch.Doomed) : next.Doomed := by
  obtain ⟨hcancelled, hopen⟩ := h
  refine ⟨hstep.cancelled_iff.2 (.inl hcancelled), fun results hphase => ?_⟩
  rcases hstep.phase_returned hphase with hbefore | ⟨-, hnone⟩ | ⟨-, hresults⟩
  · exact hopen results hbefore
  · cases hnone
  · rw [if_pos hcancelled] at hresults
    cases hresults

theorem Run.doomed (hrun : batch.Run matcher lines events next) (h : batch.Doomed) :
    next.Doomed :=
  hrun.preserves Doomed (fun _ hbefore hstep => hstep.doomed hbefore) h

theorem Run.open_of_cancel {front back : List BatchEvent}
    (hrun : (start texts workers).Run matcher lines (front ++ .cancel :: back) batch)
    (hcheck : .check ∉ front) : batch.Open := by
  obtain ⟨middle, hfront, hback⟩ := hrun.split
  have hopen : middle.Open := by
    refine hfront.preserves Open (fun hmem hbefore hstep => ?_) nofun
    exact hstep.open hbefore fun h => hcheck (h ▸ hmem)
  cases hback with
  | cons hstep hrest =>
      cases hstep
      exact (hrest.doomed ⟨rfl, hopen⟩).2

theorem Run.open_of_stop {i : Nat}
    (hrun : (start texts workers).Run matcher (LogLine.numbered texts) events batch)
    (hstop : .work i .stop ∈ events) : batch.Open := by
  obtain ⟨front, back, rfl⟩ := List.append_of_mem hstop
  obtain ⟨middle, hfront, hback⟩ := hrun.split
  have hsound := (sound_start matcher texts workers).run hfront
  cases hback with
  | cons hstep hrest =>
      cases hstep with
      | @work _ _ task after htask hwork =>
          have hjoined := hwork.isJoined.1
          cases hwork with
          | stop hcancelled =>
              refine (hrest.doomed ⟨hcancelled, fun results hphase => ?_⟩).2
              -- results are returned only when all workers are joined, and this one is not
              have hall := (hsound.returned hphase).2.1 _ (List.mem_of_getElem? htask)
              rw [hjoined] at hall
              cases hall

/--
In every run, results are those of all lines: no worker has stopped early, and a line whose
worker did not die has been processed.  A batch that is cancelled before its last look for
cancellation comes to an end without results.  Matching in order has results only when no
line was stopped before.
-/
theorem cancellation_all_or_nothing {matcher : Matcher} {texts : List String} {workers : Nat}
    {events : List BatchEvent} {batch : Batch}
    (hrun : (start texts workers).Run matcher (LogLine.numbered texts) events batch) :
    (∀ results, batch.phase = .returned (some results) →
      (∀ i, .work i .stop ∉ events) ∧ results.length = texts.length ∧
        ∀ (k : Nat) (text : String), texts[k]? = some text →
          .work (k / chunkSize texts.length workers) .die ∉ events →
            results[k]? = some (LogLine.process matcher ⟨k + 1, text⟩)) ∧
      (∀ front back, events = front ++ .cancel :: back → .check ∉ front →
        ∀ results?, batch.phase = .returned results? → results? = none) ∧
      ((∀ results?, batch.phase ≠ .returned results?) →
        ∃ event next, event ≠ .cancel ∧
          batch.Step matcher (LogLine.numbered texts) event next) ∧
      events.countP (· ≠ .cancel) ≤
        texts.length + 6 * (chunks (LogLine.numbered texts) workers).length + 5 ∧
      ∀ (stops : LogLine → Bool) (results : List LineResult),
        matchInOrder matcher stops (LogLine.numbered texts) = some results ↔
          (∀ line ∈ LogLine.numbered texts, stops line = false) ∧
            results = (LogLine.numbered texts).map (LogLine.process matcher) := by
  have hsound := (sound_start matcher texts workers).run hrun
  refine ⟨fun results hphase => ⟨fun i hstop => ?_, hsound.length_results hphase, ?_⟩, ?_,
    hsound.exists_step, hrun.countP_start_le, fun stops results => ?_⟩
  · exact hrun.open_of_stop hstop results hphase
  · intro k text htext hlives
    have hline : (LogLine.numbered texts)[k]? = some ⟨k + 1, text⟩ := by
      simp [LogLine.getElem?_numbered, htext]
    exact (hrun.getElem?_results hphase hline).2 hlives
  · rintro front back rfl hcheck results? hphase
    cases results? with
    | none => rfl
    | some results => exact absurd hphase (hrun.open_of_cancel hcheck results)
  · rw [matchInOrder_eq]
    by_cases hstops : (LogLine.numbered texts).any stops = true
    · rw [if_pos hstops]
      obtain ⟨line, hmem, hline⟩ := List.any_eq_true.1 hstops
      refine ⟨nofun, fun h => ?_⟩
      rw [h.1 line hmem] at hline
      cases hline
    · have hnone : ∀ line ∈ LogLine.numbered texts, stops line = false := by
        simpa using hstops
      rw [if_neg hstops, Option.some.injEq, eq_comm]
      exact ⟨fun h => ⟨hnone, h⟩, fun h => h.2⟩

/-- A worker that sees the batch cancelled at its second line. -/
theorem cancellation_all_or_nothing_second_line :
    ∃ (events : List BatchEvent) (batch : Batch),
      .work 0 .process ∈ events ∧ .work 0 .stop ∈ events ∧
        (start ["a", "b"] 1).Run (fun _ => .ok none) (LogLine.numbered ["a", "b"]) events batch ∧
        ∃ results?, batch.phase = .returned results? ∧ results? = none := by
  have hstart : start ["a", "b"] 1 =
      ⟨false, [.running [] [⟨1, "a"⟩, ⟨2, "b"⟩]], Array.replicate 2 none, .polling⟩ := by
    simp [start, chunks, chunksFrom, chunkSize, LogLine.numbered]
  let events : List BatchEvent :=
    [.proceed, .work 0 .process, .cancel, .work 0 .stop, .join 0, .giveUp]
  obtain ⟨batch, hrun, results?, hphase⟩ : ∃ batch,
      (start ["a", "b"] 1).Run (fun _ => .ok none) (LogLine.numbered ["a", "b"]) events batch ∧
        ∃ results?, batch.phase = .returned results? := by
    rw [hstart]
    exact ⟨_, .cons (.proceed rfl rfl) <| .cons (.work rfl .process) <| .cons .cancel <|
      .cons (.work rfl (.stop rfl)) <| .cons (.join rfl rfl) <| .cons (.giveUp rfl rfl) .nil,
      _, rfl⟩
  have hcheck : BatchEvent.check ∉ [.proceed, .work 0 .process] := by decide
  exact ⟨events, batch, by decide, by decide, hrun, results?, hphase,
    (cancellation_all_or_nothing hrun).2.1 [.proceed, .work 0 .process] _ rfl hcheck _ hphase⟩

end Batch

/-! ## Batches of an engine -/

namespace Engine

theorem map_line_matchLines {engine : Engine} {mishaps : Mishaps}
    {patterns : List CompiledPattern} {texts : List String} {results : List LineResult}
    (h : (engine.matchLines mishaps patterns (LogLine.numbered texts)).results? = some results) :
    results.map (·.line) = LogLine.numbered texts := by
  unfold matchLines at h
  dsimp only at h
  split at h
  · rw [matchInOrder_eq] at h
    split at h
    · cases h
    · cases h
      simp [Function.comp_def]
  · unfold matchWithWorkers at h
    dsimp only at h
    split at h
    · cases h
    · rw [collectReports_ofChunk] at h
      dsimp only at h
      split at h
      · cases h
      · cases h
        rw [List.map_map]
        refine (List.map_congr_left fun line _ => ?_).trans (List.map_id _)
        dsimp only [Function.comp_apply]
        split <;> rfl

/-- A batch is refused without results, cancelled without an outcome, or complete. -/
theorem validateAmid_complete {engine : Engine} {mishaps : Mishaps} {texts : List String}
    {definitions : List PatternDefinition} {outcome : ValidationOutcome}
    (h : (engine.validateAmid mishaps texts definitions).value = .ok outcome) :
    (outcome.success = false ∧ outcome.results = []) ∨
      (outcome.success = true ∧ outcome.results.map (·.line) = LogLine.numbered texts) := by
  unfold validateAmid validateBy at h
  dsimp only at h
  split at h
  · cases h
    exact .inl ⟨rfl, rfl⟩
  · split at h
    · cases h
    · next hresults =>
        cases h
        exact .inr ⟨rfl, map_line_matchLines hresults⟩

end Engine

end LogPattern
