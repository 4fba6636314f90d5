import LogPattern.Proofs.Validation.Progress

/-!
# Workers and matching in order agree

The runs of a batch include the one in which the workers work one after the other, and
all runs that are not cancelled and lose the same workers return the same results.
-/

namespace LogPattern

namespace Batch

variable {matcher : Matcher} {lines : List LogLine} {texts : List String} {workers : Nat}
  {batch : Batch}

/-! ## Workers one after the other -/

theorem exists_run_finish {i : Nat} {done : List LineResult} {rest : List LogLine}
    (htask : batch.tasks[i]? = some (.running done rest)) :
    ∃ events, batch.Run matcher lines events (batch.setTask i
      (.ended (.finished (done ++ rest.map (LogLine.process matcher))))) := by
  induction rest generalizing batch done with
  | nil => exact ⟨[.work i .finish], .cons (by simpa using Step.work htask .finish) .nil⟩
  | cons line rest ih =>
      have hlt := (List.getElem?_eq_some_iff.1 htask).1
      have hstep : batch.Step matcher lines (.work i .process)
          (batch.setTask i (.running (done ++ [line.process matcher]) rest)) := .work htask .process
      have htask' : (batch.setTask i (.running (done ++ [line.process matcher]) rest)).tasks[i]? =
          some (.running (done ++ [line.process matcher]) rest) := List.getElem?_set_self hlt
      obtain ⟨events, hrest⟩ := ih htask'
      exact ⟨.work i .process :: events, .cons hstep (by simpa using hrest)⟩

theorem exists_run_ofChunk {i : Nat} {chunk : List LogLine} (kills : LogLine → Bool)
    (htask : batch.tasks[i]? = some (.running [] chunk)) :
    ∃ events, batch.Run matcher lines events
      (batch.setTask i (.ended (.ofChunk matcher kills chunk))) := by
  rw [WorkerReport.ofChunk]
  split
  · exact ⟨[.work i .die], .cons (.work htask .die) .nil⟩
  · simpa using exists_run_finish htask

theorem exists_run_work {front : List WorkerTask} {parts : List (List LogLine)}
    (kills : LogLine → Bool) (htasks : batch.tasks = front ++ parts.map (.running [])) :
    ∃ events, batch.Run matcher lines events
      { batch with
        tasks := front ++ (parts.map (.ofChunk matcher kills)).map .ended } := by
  induction parts generalizing batch front with
  | nil =>
      simp only [List.map_nil, List.append_nil] at htasks ⊢
      rw [← htasks]
      exact ⟨[], .nil⟩
  | cons chunk parts ih =>
      have htask : batch.tasks[front.length]? = some (.running [] chunk) := by simp [htasks]
      obtain ⟨events, hfirst⟩ : ∃ events, batch.Run matcher lines events
          (batch.setTask front.length (.ended (.ofChunk matcher kills chunk))) :=
        exists_run_ofChunk kills htask
      have htasks' : (batch.setTask front.length (.ended (.ofChunk matcher kills chunk))).tasks =
          front ++ [.ended (.ofChunk matcher kills chunk)] ++ parts.map (.running []) := by
        simp [htasks]
      obtain ⟨more, hrest⟩ := ih htasks'
      refine ⟨events ++ more, hfirst.append ?_⟩
      simpa [setTask] using hrest

theorem exists_run_join {front : List WorkerTask} {reports : List WorkerReport}
    (hphase : batch.phase = .polling) (hcancelled : batch.cancelled = false)
    (htasks : batch.tasks = front ++ reports.map .ended) :
    ∃ events, batch.Run matcher lines events
      { batch with
        tasks := front ++ reports.map .joined
        slots := reports.foldl ResultSlots.join batch.slots } := by
  induction reports generalizing batch front with
  | nil =>
      simp only [List.map_nil, List.append_nil] at htasks ⊢
      rw [← htasks]
      exact ⟨[], .nil⟩
  | cons report reports ih =>
      have htask : batch.tasks[front.length]? = some (.ended report) := by simp [htasks]
      have hproceed : batch.Step matcher lines .proceed { batch with phase := .joining } :=
        .proceed hphase hcancelled
      have hjoin : ({ batch with phase := .joining } : Batch).Step matcher lines
          (.join front.length) (batch.joinTask front.length report) := .join rfl htask
      have hpolling : (batch.joinTask front.length report).phase = .polling := rfl
      have htasks' : (batch.joinTask front.length report).tasks =
          front ++ [.joined report] ++ reports.map .ended := by
        simp [htasks]
      obtain ⟨events, hrest⟩ := ih hpolling hcancelled htasks'
      refine ⟨.proceed :: .join front.length :: events, .cons hproceed (.cons hjoin ?_)⟩
      simpa [joinTask, hphase] using hrest

theorem exists_run_checking (matcher : Matcher) (kills : LogLine → Bool) (texts : List String)
    (workers : Nat) :
    ∃ events batch, (start texts workers).Run matcher (LogLine.numbered texts) events batch ∧
      batch.phase = .checking ∧ batch.cancelled = false ∧
      batch.slots.fill (LogLine.numbered texts) = collectReports (LogLine.numbered texts)
        ((chunks (LogLine.numbered texts) workers).map (WorkerReport.ofChunk matcher kills)) := by
  have htasks : (start texts workers).tasks =
      [] ++ (chunks (LogLine.numbered texts) workers).map (.running []) := rfl
  obtain ⟨works, hworks⟩ := exists_run_work kills htasks
  generalize (chunks (LogLine.numbered texts) workers).map (WorkerReport.ofChunk matcher kills) =
    reports at hworks ⊢
  let ended : Batch := ⟨false, reports.map .ended, (start texts workers).slots, .polling⟩
  have hended : ended.tasks = [] ++ reports.map .ended := rfl
  obtain ⟨joins, hjoins⟩ := exists_run_join rfl rfl hended
  refine ⟨works ++ (joins ++ [.proceed, .leave]), _,
    hworks.append (hjoins.append (.cons (.proceed rfl rfl) (.cons (.leave rfl ?_) .nil))),
    rfl, rfl, rfl⟩
  intro task hmem
  obtain ⟨report, -, rfl⟩ := List.mem_map.1 hmem
  rfl

/-- Matching with workers is one of the runs. -/
theorem exists_run_matchWithWorkers (matcher : Matcher) (mishaps : Mishaps) (texts : List String)
    (workers : Nat) :
    ∃ events batch, (start texts workers).Run matcher (LogLine.numbered texts) events batch ∧
      batch.phase =
        .returned (matchWithWorkers matcher mishaps workers (LogLine.numbered texts)).results? := by
  rw [matchWithWorkers]
  dsimp only
  split
  · exact ⟨[.cancel, .giveUp], _, .cons .cancel (.cons (.giveUp rfl rfl) .nil), rfl⟩
  · obtain ⟨events, batch, hrun, hphase, hcancelled, hfill⟩ :=
      exists_run_checking matcher mishaps.killsWorker texts workers
    split
    · have hcheck : ({ batch with cancelled := true } : Batch).Step matcher
          (LogLine.numbered texts) .check _ := .check hphase
      exact ⟨events ++ [.cancel, .check], _, hrun.append (.cons .cancel (.cons hcheck .nil)), rfl⟩
    · refine ⟨events ++ [.check], _, hrun.append (.cons (.check hphase) .nil), ?_⟩
      simp only [hcancelled, Bool.false_eq_true, if_false, hfill]

/-! ## Runs that are not cancelled -/

def Uncancelled (batch : Batch) : Prop :=
  batch.cancelled = false ∧ batch.phase ≠ .returned none

theorem Run.uncancelled {events : List BatchEvent}
    (hrun : (start texts workers).Run matcher lines events batch) (hcancel : .cancel ∉ events) :
    batch.Uncancelled := by
  refine hrun.preserves Uncancelled ?_ ⟨rfl, nofun⟩
  rintro before after event hmem ⟨hcancelled, hphase⟩ hstep
  have hother : event ≠ .cancel := fun h => hcancel (h ▸ hmem)
  constructor
  · rw [Bool.eq_false_iff, ne_eq, hstep.cancelled_iff]
    simp [hcancelled, hother]
  · intro hnext
    rcases hstep.phase_returned hnext with hbefore | ⟨htrue, -⟩ | ⟨-, hresults⟩
    · exact hphase hbefore
    · rw [hcancelled] at htrue
      cases htrue
    · rw [hcancelled] at hresults
      cases hresults

theorem mem_survivingLines_iff {kills : LogLine → Bool} {k : Nat} {line : LogLine}
    {chunk : List LogLine} (hline : (LogLine.numbered texts)[k]? = some line)
    (hchunk : (chunks (LogLine.numbered texts) workers)[k / chunkSize texts.length workers]? =
      some chunk) :
    line ∈ survivingLines kills (chunks (LogLine.numbered texts) workers) ↔
      chunk.any kills = false := by
  simp only [survivingLines, List.mem_flatten, List.mem_filter, Bool.not_eq_true']
  constructor
  · rintro ⟨other, ⟨hmem, hlives⟩, hin⟩
    obtain ⟨j, hj⟩ := List.mem_iff_getElem?.1 hmem
    obtain rfl := (mem_chunk_iff hj hline).1 hin
    rw [hchunk] at hj
    cases hj
    exact hlives
  · intro hlives
    exact ⟨chunk, ⟨List.mem_of_getElem? hchunk, hlives⟩, (mem_chunk_iff hchunk hline).2 rfl⟩

theorem Run.results_eq_map_of {events : List BatchEvent} {results : List LineResult}
    {result : LogLine → LineResult}
    (hrun : (start texts workers).Run matcher (LogLine.numbered texts) events batch)
    (hphase : batch.phase = .returned (some results))
    (hall : ∀ {k : Nat} {line : LogLine}, (LogLine.numbered texts)[k]? = some line →
      results[k]? = some (result line)) :
    results = (LogLine.numbered texts).map result := by
  apply List.ext_getElem?
  intro k
  rw [List.getElem?_map]
  cases hline : (LogLine.numbered texts)[k]? with
  | some line => rw [hall hline, Option.map_some]
  | none =>
      have hsound := (sound_start matcher texts workers).run hrun
      rw [List.getElem?_eq_none_iff, LogLine.length_numbered,
        ← hsound.length_results hphase] at hline
      rw [Option.map_none, List.getElem?_eq_none hline]

/-- Runs that lose the same workers return what matching with workers returns. -/
theorem Run.results_eq_matchWithWorkers {events : List BatchEvent} {results : List LineResult}
    {mishaps : Mishaps}
    (hrun : (start texts workers).Run matcher (LogLine.numbered texts) events batch)
    (hphase : batch.phase = .returned (some results)) (hnever : mishaps.cancellation = .never)
    (hkills : ∀ {i : Nat} {chunk : List LogLine},
      (chunks (LogLine.numbered texts) workers)[i]? = some chunk →
        (.work i .die ∈ events ↔ chunk.any mishaps.killsWorker = true)) :
    (matchWithWorkers matcher mishaps workers (LogLine.numbered texts)).results? =
      some results := by
  simp only [matchWithWorkers, hnever, Cancellation.strikes, Bool.false_eq_true, if_false,
    reduceCtorEq, collectReports_ofChunk, Option.some.injEq]
  refine (hrun.results_eq_map_of hphase fun {k line} hline => ?_).symm
  obtain ⟨chunk, hchunk⟩ := exists_chunk workers hline
  obtain ⟨hdead, hlives⟩ := hrun.getElem?_results hphase hline
  have hmem : line ∈ survivingLines mishaps.killsWorker
      (chunks (LogLine.numbered texts) workers) ↔ chunk.any mishaps.killsWorker = false :=
    mem_survivingLines_iff hline hchunk
  by_cases hdies : .work (k / chunkSize texts.length workers) .die ∈ events
  · have hkilled := (hkills hchunk).1 hdies
    rw [hdead hdies, if_neg]
    simp [hmem, hkilled]
  · have hlost : chunk.any mishaps.killsWorker = false :=
      Bool.eq_false_iff.2 fun h => hdies ((hkills hchunk).2 h)
    rw [hlives hdies, if_pos (hmem.2 hlost)]

theorem Run.results_eq_map {events : List BatchEvent} {results : List LineResult}
    (hrun : (start texts workers).Run matcher (LogLine.numbered texts) events batch)
    (hphase : batch.phase = .returned (some results)) (halive : ∀ i, .work i .die ∉ events) :
    results = (LogLine.numbered texts).map (LogLine.process matcher) :=
  hrun.results_eq_map_of hphase fun hline =>
    (hrun.getElem?_results hphase hline).2 (halive _)

/--
Whatever the order of the steps, a batch that is not cancelled comes to an end and returns
one result for each line, in order: for the lines of a worker that died that it did not
complete, and for all others what matching in order gives.  These are the results of
`matchWithWorkers` when the same workers die.
-/
theorem workers_agree_with_order {matcher : Matcher} {texts : List String} {workers : Nat}
    {events : List BatchEvent} {batch : Batch} (hworkers : 0 < workers)
    (hrun : (start texts workers).Run matcher (LogLine.numbered texts) events batch)
    (hcancel : .cancel ∉ events) :
    (∀ results?, batch.phase = .returned results? →
      ∃ results inOrder, results? = some results ∧
        matchInOrder matcher Cancellation.never.stopsBefore (LogLine.numbered texts) =
          some inOrder ∧
        results.length = texts.length ∧
        (∀ (k : Nat) (text : String), texts[k]? = some text →
          (.work (k / (texts.length ⌈/⌉ workers)) .die ∈ events →
            ∃ outcome : LineOutcome, outcome.kind = .failed ∧
              outcome.errorMessage? =
                some "Internal matcher failure: worker task did not complete" ∧
              results[k]? = some ⟨⟨k + 1, text⟩, outcome⟩) ∧
          (.work (k / (texts.length ⌈/⌉ workers)) .die ∉ events → results[k]? = inOrder[k]?)) ∧
        ((∀ i, .work i .die ∉ events) → results = inOrder) ∧
        ∀ mishaps : Mishaps, mishaps.cancellation = .never →
          (∀ {i : Nat} {chunk : List LogLine},
            (chunks (LogLine.numbered texts) workers)[i]? = some chunk →
              (.work i .die ∈ events ↔ chunk.any mishaps.killsWorker = true)) →
          (matchWithWorkers matcher mishaps workers (LogLine.numbered texts)).results? =
            some results) ∧
      ((∀ results?, batch.phase ≠ .returned results?) →
        ∃ event next, event ≠ .cancel ∧
          batch.Step matcher (LogLine.numbered texts) event next) ∧
      events.length ≤ texts.length + 6 * (chunks (LogLine.numbered texts) workers).length + 5 := by
  have hsound := (sound_start matcher texts workers).run hrun
  refine ⟨fun results? hphase => ?_, hsound.exists_step, ?_⟩
  · obtain ⟨results, rfl⟩ : ∃ results, results? = some results := by
      rw [← Option.ne_none_iff_exists']
      rintro rfl
      exact (hrun.uncancelled hcancel).2 hphase
    have hinOrder : matchInOrder matcher Cancellation.never.stopsBefore (LogLine.numbered texts) =
        some ((LogLine.numbered texts).map (LogLine.process matcher)) := by
      rw [matchInOrder_eq, if_neg]
      simp [Cancellation.stopsBefore]
    refine ⟨results, _, rfl, hinOrder, hsound.length_results hphase, fun k text htext => ?_,
      hrun.results_eq_map hphase, fun _ => hrun.results_eq_matchWithWorkers hphase⟩
    have hline : (LogLine.numbered texts)[k]? = some ⟨k + 1, text⟩ := by
      simp [LogLine.getElem?_numbered, htext]
    have hlt := (List.getElem?_eq_some_iff.1 htext).1
    obtain ⟨hdead, hlives⟩ := hrun.getElem?_results hphase hline
    rw [chunkSize_eq_ceilDiv (by omega) hworkers] at hdead hlives
    refine ⟨fun hdies => ⟨.failed .worker, rfl, rfl, hdead hdies⟩, fun hlive => ?_⟩
    rw [hlives hlive, List.getElem?_map, hline, Option.map_some]
  · have hall : events.countP (· ≠ .cancel) = events.length := by
      rw [List.countP_eq_length]
      intro event hmem
      have hne : event ≠ .cancel := fun h => hcancel (h ▸ hmem)
      simp [hne]
    rw [← hall]
    exact hrun.countP_start_le

/-- Three lines for two workers, of which the second dies and is joined first. -/
theorem workers_agree_with_order_second_dies :
    ∃ (events : List BatchEvent) (batch : Batch) (results : List LineResult),
      .work 1 .die ∈ events ∧ batch.phase = .returned (some results) ∧
        results[2]?.bind (·.outcome.errorMessage?) =
          some "Internal matcher failure: worker task did not complete" := by
  have hstart : start ["a", "", "b"] 2 =
      ⟨false, [.running [] [⟨1, "a"⟩, ⟨2, ""⟩], .running [] [⟨3, "b"⟩]],
        Array.replicate 3 none, .polling⟩ := by
    simp [start, chunks, chunksFrom, chunkSize, LogLine.numbered]
  let events : List BatchEvent := [.work 0 .process, .work 1 .die, .proceed, .join 1,
    .work 0 .process, .work 0 .finish, .proceed, .join 0, .proceed, .leave, .check]
  obtain ⟨batch, hrun, hphase⟩ : ∃ batch,
      (start ["a", "", "b"] 2).Run (fun _ => .ok none) (LogLine.numbered ["a", "", "b"]) events
        batch ∧ ∃ results, batch.phase = .returned (some results) := by
    rw [hstart]
    refine ⟨_, .cons (.work rfl .process) <| .cons (.work rfl .die) <| .cons (.proceed rfl rfl) <|
      .cons (.join rfl rfl) <| .cons (.work rfl .process) <| .cons (.work rfl .finish) <|
      .cons (.proceed rfl rfl) <| .cons (.join rfl rfl) <| .cons (.proceed rfl rfl) <|
      .cons (.leave rfl ?_) <| .cons (.check rfl) .nil, _, rfl⟩
    intro task hmem
    simp [setTask, joinTask] at hmem
    rcases hmem with rfl | rfl <;> rfl
  obtain ⟨results, hphase⟩ := hphase
  refine ⟨events, batch, results, by decide, hphase, ?_⟩
  have hcancel : BatchEvent.cancel ∉ events := by decide
  have hagree := workers_agree_with_order (Nat.succ_pos 1) hrun hcancel
  obtain ⟨results', _, hsome, -, -, hlines, -⟩ := hagree.1 _ hphase
  obtain rfl : results = results' := Option.some.inj hsome
  obtain ⟨outcome, -, hmessage, hresult⟩ := (hlines 2 "b" rfl).1 (by decide)
  rw [hresult, Option.bind_some, hmessage]

end Batch

end LogPattern
