import LogPattern.Proofs.Validation.Agreement
import LogPattern.Proofs.Validation.AllOrNothing
import LogPattern.Proofs.Validation.Answer
import LogPattern.Proofs.Validation.Compilation

/-!
# Calls of an engine

A call compiles its definitions, and has lines matched in order or by workers whose steps come in
any order.  Matching may break off, workers may die, and the call may be cancelled at any moment.
Definitions that do not compile win over all of this.  A call that is cancelled before it begins
has no outcome, unless it has no lines and matches in order: nobody looks for cancellation then.
-/

namespace LogPattern

/-! ## Ways of matching -/

namespace Engine

/--
What matching the lines may come to: a run through them in order, or any run of the workers.
If the batch is cancelled beforehand, every line is stopped, and cancellation is the first thing
that happens to the workers.
-/
inductive MayMatch (engine : Engine) (patterns : List CompiledPattern) (texts : List String)
    (beforehand : Bool) (results? : Option (List LineResult)) : Prop
  | inOrder (fault? : LogLine → Option MatchFault) (stops : LogLine → Bool)
      (hpath : engine.matchesInOrder texts.length = true)
      (hbefore : beforehand = true → ∀ line, stops line = true)
      (hresults : matchInOrder ((Matcher.ofPatterns patterns).breakingOff fault?) stops
        (LogLine.numbered texts) = results?)
  | withWorkers (fault? : LogLine → Option MatchFault) {events : List BatchEvent} {batch : Batch}
      (hpath : engine.matchesInOrder texts.length = false)
      (hbefore : beforehand = true → events.head? = some .cancel)
      (hrun : (Batch.start texts engine.workers).Run
        ((Matcher.ofPatterns patterns).breakingOff fault?) (LogLine.numbered texts) events batch)
      (hphase : batch.phase = .returned results?)

variable {engine : Engine} {patterns : List CompiledPattern} {texts : List String}
  {beforehand : Bool} {results : List LineResult}

theorem mayMatch_matchLines (engine : Engine) (mishaps : Mishaps)
    (patterns : List CompiledPattern) (texts : List String) :
    engine.MayMatch patterns texts (mishaps.cancellation = .beforehand)
      (engine.matchLines mishaps patterns (LogLine.numbered texts)).results? := by
  rw [matchLines, LogLine.length_numbered]
  dsimp only
  by_cases hpath : engine.matchesInOrder texts.length = true
  · rw [if_pos hpath]
    refine .inOrder mishaps.matchFault? _ hpath ?_ rfl
    intro hbefore line
    rw [of_decide_eq_true hbefore]
    rfl
  · rw [if_neg hpath]
    have hworkers : engine.matchesInOrder texts.length = false := Bool.eq_false_iff.2 hpath
    by_cases hbefore : mishaps.cancellation = .beforehand
    · have hnone : (matchWithWorkers
          ((Matcher.ofPatterns patterns).breakingOff mishaps.matchFault?) mishaps engine.workers
          (LogLine.numbered texts)).results? = none := by
        simp [matchWithWorkers, hbefore, Cancellation.strikes]
      rw [hnone]
      exact .withWorkers mishaps.matchFault? hworkers (fun _ => rfl)
        (.cons .cancel (.cons (.giveUp rfl rfl) .nil)) rfl
    · obtain ⟨events, batch, hrun, hphase⟩ := Batch.exists_run_matchWithWorkers
        ((Matcher.ofPatterns patterns).breakingOff mishaps.matchFault?) mishaps texts
        engine.workers
      refine .withWorkers mishaps.matchFault? hworkers ?_ hrun hphase
      intro hdecide
      exact absurd (of_decide_eq_true hdecide) hbefore

namespace MayMatch

/-- In each way there is a result for each line, of processing it or of a worker that died. -/
theorem exists_results (h : engine.MayMatch patterns texts beforehand (some results)) :
    ∃ fault?, results.length = texts.length ∧ ∀ result ∈ results,
      result = result.line.process ((Matcher.ofPatterns patterns).breakingOff fault?) ∨
        result.outcome = .failed .worker := by
  cases h with
  | inOrder fault? stops hpath hbefore hresults =>
      refine ⟨fault?, ?_⟩
      rw [matchInOrder_eq] at hresults
      split at hresults
      · cases hresults
      · cases hresults
        refine ⟨by simp, ?_⟩
        intro result hresult
        obtain ⟨line, -, rfl⟩ := List.mem_map.1 hresult
        exact .inl rfl
  | @withWorkers fault? events batch hpath hbefore hrun hphase =>
      have hlength := ((Batch.sound_start _ texts engine.workers).run hrun).length_results hphase
      refine ⟨fault?, hlength, ?_⟩
      intro result hresult
      obtain ⟨k, hk⟩ := List.mem_iff_getElem?.1 hresult
      have hlt : k < (LogLine.numbered texts).length := by
        rw [LogLine.length_numbered, ← hlength]
        exact (List.getElem?_eq_some_iff.1 hk).1
      obtain ⟨hdead, hlives⟩ := hrun.getElem?_results hphase (List.getElem?_eq_getElem hlt)
      by_cases hdies : .work (k / chunkSize texts.length engine.workers) .die ∈ events
      · rw [hdead hdies] at hk
        cases hk
        exact .inr rfl
      · rw [hlives hdies] at hk
        cases hk
        exact .inl rfl

theorem results?_of_beforehand {results? : Option (List LineResult)}
    (h : engine.MayMatch patterns texts true results?) :
    results? = if texts = [] ∧ engine.matchesInOrder 0 = true then some [] else none := by
  cases h with
  | inOrder fault? stops hpath hbefore hresults =>
      rw [matchInOrder_eq] at hresults
      by_cases hempty : texts = []
      · subst hempty
        rw [if_pos ⟨rfl, hpath⟩, ← hresults]
        rfl
      · have hstops : (LogLine.numbered texts).any stops = true := by
          obtain ⟨text, rest, rfl⟩ := List.exists_cons_of_ne_nil hempty
          simp [LogLine.numbered, hbefore rfl]
        rw [if_neg fun hboth => hempty hboth.1, ← hresults, if_pos hstops]
  | @withWorkers fault? events batch hpath hbefore hrun hphase =>
      have hparallel : ¬ (texts = [] ∧ engine.matchesInOrder 0 = true) := by
        intro hboth
        rw [hboth.1, List.length_nil, hboth.2] at hpath
        cases hpath
      rw [if_neg hparallel]
      obtain ⟨rest, rfl⟩ := List.head?_eq_some_iff.1 (hbefore rfl)
      -- nothing comes before the cancellation, so no results have been returned then
      have hcheck : BatchEvent.check ∉ ([] : List BatchEvent) := List.not_mem_nil
      have hopen : batch.Open := Batch.Run.open_of_cancel hrun hcheck
      cases results? with
      | none => rfl
      | some results => exact absurd hphase (hopen results)

end MayMatch

end Engine

/-! ## Calls -/

/-- A call of an engine, with the way in which matching its lines goes. -/
structure Call where
  engine : Engine
  texts : List String
  definitions : List PatternDefinition
  /-- The call is cancelled before it begins. -/
  beforehand : Bool
  matching : List CompiledPattern → WorkerRun
  mayMatch : ∀ patterns, engine.MayMatch patterns texts beforehand (matching patterns).results?

namespace Call

def recorded (call : Call) : Recorded (Except EngineError ValidationOutcome) :=
  call.engine.validateBy call.matching call.definitions

def amid (engine : Engine) (mishaps : Mishaps) (texts : List String)
    (definitions : List PatternDefinition) : Call where
  engine := engine
  texts := texts
  definitions := definitions
  beforehand := mishaps.cancellation = .beforehand
  matching patterns := engine.matchLines mishaps patterns (LogLine.numbered texts)
  mayMatch patterns := engine.mayMatch_matchLines mishaps patterns texts

theorem recorded_amid (engine : Engine) (mishaps : Mishaps) (texts : List String)
    (definitions : List PatternDefinition) :
    (amid engine mishaps texts definitions).recorded =
      engine.validateAmid mishaps texts definitions := rfl

def failures (call : Call) : List CompileFailure :=
  PatternDefinition.failures call.engine.registry call.engine.settings.maxRecursionDepth
    call.definitions

def CompilesTo (call : Call) (patterns : List CompiledPattern) : Prop :=
  PatternDefinition.CompileTo call.engine.registry call.engine.settings.maxRecursionDepth
    call.definitions patterns

/-- A call is refused for its definitions, cancelled, or completed. -/
theorem recorded_cases (call : Call) :
    (call.failures ≠ [] ∧
      call.recorded.value =
        .ok (.failed (CompileFailure.summary call.failures call.definitions.length)) ∧
      call.recorded.metrics =
        call.failures.map fun failure => ⟨.compileErrors failure.cause.kind, 1⟩) ∨
    (call.failures = [] ∧ ∃ patterns, call.CompilesTo patterns ∧
      (call.matching patterns).results? = none ∧
      call.recorded.value = .error .cancelled ∧
      call.recorded.metrics = [⟨.patternsCompiled, call.definitions.length⟩]) ∨
    call.failures = [] ∧ ∃ patterns results, call.CompilesTo patterns ∧
      (call.matching patterns).results? = some results ∧
      call.recorded.value = .ok (.completed results) ∧
      call.recorded.metrics = [⟨.patternsCompiled, call.definitions.length⟩] ++
        MetricUpdate.ofResults results ++ [⟨.validationDuration, 1⟩] := by
  have hcompiled : call.engine.compileAll call.definitions =
      PatternDefinition.compileAll call.engine.registry call.engine.settings.maxRecursionDepth
        call.definitions := rfl
  rcases PatternDefinition.compileAll_cases call.engine.registry
    call.engine.settings.maxRecursionDepth call.definitions with
    ⟨hfailures, hvalue, hmetrics⟩ | ⟨hnone, patterns, hall, hvalue, hmetrics⟩
  · rw [← hcompiled] at hvalue hmetrics
    refine .inl ⟨hfailures, ?_, ?_⟩
    · simp only [recorded, Engine.validateBy, hvalue, failures]
    · simp only [recorded, Engine.validateBy, hvalue, hmetrics, failures]
  · rw [← hcompiled] at hvalue hmetrics
    cases hresults : (call.matching patterns).results? with
    | none =>
        refine .inr (.inl ⟨hnone, patterns, hall, hresults, ?_, ?_⟩)
        · simp only [recorded, Engine.validateBy, hvalue, hresults]
        · simp only [recorded, Engine.validateBy, hvalue, hmetrics, hresults]
    | some results =>
        refine .inr (.inr ⟨hnone, patterns, results, hall, hresults, ?_, ?_⟩)
        · simp only [recorded, Engine.validateBy, hvalue, hresults]
        · simp only [recorded, Engine.validateBy, hvalue, hmetrics, hresults]

theorem failures_eq_nil_iff (call : Call) :
    call.failures = [] ↔
      ∀ definition ∈ call.definitions, call.engine.Compiles definition.pattern := by
  rw [← not_iff_not, failures, ← ne_eq, PatternDefinition.failures_ne_nil_iff]
  simp only [except_exists_error_iff, not_forall, exists_prop]
  rfl

def plainEngine (parallelThreshold workers : Nat) : Engine :=
  ⟨.empty, { EngineSettings.default with parallelThreshold, workerThreads := workers }, 1⟩

/-! ## Definitions that do not compile -/

/-- A line that is matched by the pattern with an index is matched by none before it. -/
theorem firstMatch_of_matched {patterns : List CompiledPattern}
    {fault? : LogLine → Option MatchFault} {line : LogLine} {index : Nat} {fields : FieldMap}
    (h : (line.process ((Matcher.ofPatterns patterns).breakingOff fault?)).outcome =
      .matched index fields) :
    firstMatch patterns line.text = some (index, fields) := by
  simp only [LogLine.process, Matcher.breakingOff, Matcher.ofPatterns] at h
  split at h
  · cases h
  · cases hfault : fault? line with
    | some fault => simp [hfault] at h
    | none =>
        cases hfirst : firstMatch patterns line.text with
        | none => simp [hfault, hfirst] at h
        | some found =>
            rw [hfault, hfirst] at h
            cases h
            rfl

/-- The index of a match is that of a definition whose pattern has matched the line. -/
theorem CompilesTo.matched_by_definition {call : Call} {patterns : List CompiledPattern}
    (hall : call.CompilesTo patterns) {results : List LineResult}
    (hresults : (call.matching patterns).results? = some results) {result : LineResult}
    (hresult : result ∈ results) {index : Nat} {fields : FieldMap}
    (hmatched : result.outcome = .matched index fields) :
    ∃ definition pattern, call.definitions[index]? = some definition ∧
      CompiledPattern.compile call.engine.registry.lookup?
        call.engine.settings.maxRecursionDepth definition.pattern = .ok pattern ∧
      pattern.matchLine result.line.text = some fields := by
  have hmay := call.mayMatch patterns
  rw [hresults] at hmay
  obtain ⟨fault?, -, hprocessed⟩ := hmay.exists_results
  rcases hprocessed result hresult with hline | hfailed
  · rw [hline] at hmatched
    obtain ⟨⟨pattern, hpattern, hmatch⟩, -⟩ :=
      (firstMatch_eq_some_iff patterns _ _ _).1 (firstMatch_of_matched hmatched)
    obtain ⟨definition, hplace, hcompile⟩ := hall.exists_definition hpattern
    exact ⟨definition, pattern, hplace, hcompile, hmatch⟩
  · rw [hfailed] at hmatched
    cases hmatched

/--
The failures are those of the definitions that do not compile alone, in order, each with its
index, name and cause.  If there is one, the call comes to a report of all of them, whatever
befalls it.  If there is none, each definition has its pattern, and the index that a result
gives is that of the definition whose pattern has matched the line.
-/
theorem failures_win (call : Call) :
    ((∃ failures, (call.engine.compileAll call.definitions).value = .error failures) ↔
      ∃ definition ∈ call.definitions, ∃ cause,
        CompiledPattern.compile call.engine.registry.lookup?
          call.engine.settings.maxRecursionDepth definition.pattern = .error cause) ∧
    (∀ failures, (call.engine.compileAll call.definitions).value = .error failures →
      failures.Pairwise (·.index < ·.index) ∧
      (∀ failure, failure ∈ failures ↔
        ∃ definition, call.definitions[failure.index]? = some definition ∧
          failure.patternName = definition.name ∧
          CompiledPattern.compile call.engine.registry.lookup?
            call.engine.settings.maxRecursionDepth definition.pattern = .error failure.cause) ∧
      call.recorded.value = .ok ⟨false, [],
        some (s!"{failures.length} of {call.definitions.length} patterns failed to compile: " ++
          "; ".intercalate (failures.map fun failure =>
            "'" ++ failure.patternName ++ "' (" ++ failure.cause.kind ++ "): " ++
              failure.cause.message))⟩) ∧
    (∀ patterns, (call.engine.compileAll call.definitions).value = .ok patterns →
      List.Forall₂ (fun definition pattern =>
        CompiledPattern.compile call.engine.registry.lookup?
          call.engine.settings.maxRecursionDepth definition.pattern = .ok pattern)
        call.definitions patterns ∧
      ∀ outcome, call.recorded.value = .ok outcome →
        ∀ result ∈ outcome.results, ∀ index fields, result.outcome = .matched index fields →
          ∃ definition pattern, call.definitions[index]? = some definition ∧
            CompiledPattern.compile call.engine.registry.lookup?
              call.engine.settings.maxRecursionDepth definition.pattern = .ok pattern ∧
            pattern.matchLine result.line.text = some fields) := by
  refine ⟨?_, ?_, ?_⟩
  · rw [← PatternDefinition.failures_ne_nil_iff]
    constructor
    · intro ⟨failures, hvalue⟩
      obtain ⟨rfl, hsome⟩ := PatternDefinition.value_compileAll_eq_error_iff.1 hvalue
      exact hsome
    · intro hsome
      exact ⟨_, PatternDefinition.value_compileAll_eq_error_iff.2 ⟨rfl, hsome⟩⟩
  · intro failures hfailures
    obtain ⟨rfl, hsome⟩ := PatternDefinition.value_compileAll_eq_error_iff.1 hfailures
    refine ⟨PatternDefinition.failures_pairwise _ _ _,
      fun failure => PatternDefinition.mem_failures_iff, ?_⟩
    rcases call.recorded_cases with ⟨_, hvalue, -⟩ | ⟨hnone, -⟩ | ⟨hnone, -⟩
    · exact hvalue
    · exact absurd hnone hsome
    · exact absurd hnone hsome
  · intro patterns hpatterns
    have hall := PatternDefinition.value_compileAll_eq_ok_iff.1 hpatterns
    refine ⟨hall, ?_⟩
    intro outcome houtcome result hresult index fields hmatched
    rcases call.recorded_cases with ⟨_, hvalue, -⟩ | ⟨_, _, -, _, hvalue, -⟩ |
      ⟨_, others, results, hothers, hresults, hvalue, -⟩
    · rw [hvalue] at houtcome
      cases houtcome
      cases hresult
    · rw [hvalue] at houtcome
      cases houtcome
    · rw [hvalue] at houtcome
      cases houtcome
      exact hothers.matched_by_definition hresults hresult hmatched

/-- Two definitions of one name fail, one beside them does not, and nobody sees the cancellation. -/
theorem failures_win_same_name :
    let call := amid (plainEngine 0 2) (.ofCancellation .beforehand) ["a"]
      [⟨none, "bad", "%\x7bNOPE\x7d"⟩, ⟨none, "good", "a"⟩, ⟨none, "bad", ""⟩]
    (call.engine.compileAll call.definitions).value =
        .error [⟨0, "bad", .unknownReference "NOPE" 0⟩, ⟨2, "bad", .emptyPattern⟩] ∧
      call.recorded.value = .ok ⟨false, [],
        some ("2 of 3 patterns failed to compile: 'bad' (UnknownPatternReference): " ++
          "unknown pattern reference 'NOPE' at offset 0; " ++
          "'bad' (EmptyPattern): pattern text is empty")⟩ := by
  intro call
  have hfailures : (call.engine.compileAll call.definitions).value =
      .error [⟨0, "bad", .unknownReference "NOPE" 0⟩, ⟨2, "bad", .emptyPattern⟩] :=
    eq_error_of_error? (by decide +kernel)
  exact ⟨hfailures, ((failures_win call).2.1 _ hfailures).2.2.trans (by decide +kernel)⟩

/-! ## Cancelled beforehand -/

theorem matchesInOrder_zero_iff (engine : Engine) :
    engine.matchesInOrder 0 = true ↔
      0 < engine.settings.parallelThreshold ∨ engine.workers ≤ 1 := by
  simp [Engine.matchesInOrder]

/--
A call that is cancelled before it begins, and of which all definitions compile, is cancelled if
it has lines, or if workers are used for none.  Without lines to come to, matching in order does
not see the cancellation.
-/
theorem cancelled_beforehand (call : Call) (hbefore : call.beforehand = true)
    (hall : ∀ definition ∈ call.definitions, call.engine.Compiles definition.pattern) :
    (call.texts ≠ [] ∨
        (call.engine.settings.parallelThreshold = 0 ∧ 1 < call.engine.workers) →
      call.recorded.value = .error .cancelled) ∧
    (call.texts = [] →
        0 < call.engine.settings.parallelThreshold ∨ call.engine.workers ≤ 1 →
      call.recorded.value = .ok (.completed [])) := by
  have hnone := call.failures_eq_nil_iff.2 hall
  have hinOrder := matchesInOrder_zero_iff call.engine
  have hresults : ∀ patterns, (call.matching patterns).results? =
      if call.texts = [] ∧ call.engine.matchesInOrder 0 = true then some [] else none := by
    intro patterns
    have hmay := call.mayMatch patterns
    rw [hbefore] at hmay
    exact hmay.results?_of_beforehand
  rcases call.recorded_cases with ⟨hfailures, -⟩ | ⟨-, patterns, -, hcancelled, hvalue, -⟩ |
    ⟨-, patterns, results, -, hcompleted, hvalue, -⟩
  · exact absurd hnone hfailures
  · rw [hresults] at hcancelled
    refine ⟨fun _ => hvalue, ?_⟩
    intro hempty hpath
    rw [if_pos ⟨hempty, hinOrder.2 hpath⟩] at hcancelled
    cases hcancelled
  · rw [hresults] at hcompleted
    split at hcompleted
    · next hboth =>
        cases hcompleted
        refine ⟨?_, fun _ _ => hvalue⟩
        intro hseen
        have hpath := hinOrder.1 hboth.2
        rcases hseen with hlines | hworkers
        · exact absurd hboth.1 hlines
        · omega
    · cases hcompleted

theorem plainEngine_compiles (parallelThreshold workers : Nat) :
    (plainEngine parallelThreshold workers).Compiles "a" := by
  have hcompiles : (CompiledPattern.compile Registry.empty.lookup? 50 "a").toOption.any
      (fun _ => true) = true := by
    decide +kernel
  obtain ⟨compiled, hcompiled, -⟩ := except_exists_ok hcompiles
  exact ⟨compiled, hcompiled⟩

/-- Two lines and no lines, each time matched in order and with two workers. -/
theorem cancelled_beforehand_two_lines :
    let call (parallelThreshold : Nat) (texts : List String) :=
      amid (plainEngine parallelThreshold 2) (.ofCancellation .beforehand) texts [⟨none, "w", "a"⟩]
    (∀ parallelThreshold texts, (call parallelThreshold texts).beforehand = true ∧
      ∀ definition ∈ (call parallelThreshold texts).definitions,
        (call parallelThreshold texts).engine.Compiles definition.pattern) ∧
      (call 256 ["a", "b"]).recorded.value = .error .cancelled ∧
      (call 0 ["a", "b"]).recorded.value = .error .cancelled ∧
      (call 256 []).recorded.value = .ok (.completed []) ∧
      (call 0 []).recorded.value = .error .cancelled := by
  intro call
  have hcall : ∀ parallelThreshold texts, (call parallelThreshold texts).beforehand = true ∧
      ∀ definition ∈ (call parallelThreshold texts).definitions,
        (call parallelThreshold texts).engine.Compiles definition.pattern := by
    refine fun parallelThreshold texts => ⟨rfl, fun definition hmem => ?_⟩
    rw [List.mem_singleton.1 hmem]
    exact plainEngine_compiles parallelThreshold 2
  have hsplit parallelThreshold texts :=
    cancelled_beforehand (call parallelThreshold texts) (hcall parallelThreshold texts).1
      (hcall parallelThreshold texts).2
  have hlines : ["a", "b"] ≠ [] := List.cons_ne_nil _ _
  exact ⟨hcall, (hsplit 256 ["a", "b"]).1 (.inl hlines), (hsplit 0 ["a", "b"]).1 (.inl hlines),
    (hsplit 256 []).2 rfl (.inl (by decide)), (hsplit 0 []).1 (.inr (by decide))⟩

/-- Cancellation beforehand tells workers and matching in order apart. -/
theorem cancellation_unseen_without_lines :
    (plainEngine 256 2).Compiles "a" ∧ (plainEngine 0 2).Compiles "a" ∧
      ((plainEngine 256 2).validateAmid (.ofCancellation .beforehand) []
        [⟨none, "w", "a"⟩]).value = .ok (.completed []) ∧
      ((plainEngine 0 2).validateAmid (.ofCancellation .beforehand) []
        [⟨none, "w", "a"⟩]).value = .error .cancelled := by
  obtain ⟨compiled, hcompiled⟩ := plainEngine_compiles 256 2
  have hall : PatternDefinition.CompileTo Registry.empty 50 [⟨none, "w", "a"⟩] [compiled] :=
    .cons hcompiled .nil
  have hvalue (parallelThreshold : Nat) : ((plainEngine parallelThreshold 2).compileAll
      [⟨none, "w", "a"⟩]).value = .ok [compiled] := hall.compileAll
  refine ⟨plainEngine_compiles 256 2, plainEngine_compiles 0 2, ?_, ?_⟩
  · simp only [Engine.validateAmid, Engine.validateBy, hvalue]
    rfl
  · simp only [Engine.validateAmid, Engine.validateBy, hvalue]
    rfl

end Call

end LogPattern
