import LogPattern.Proofs.Validation.Calls

/-!
# What calls add to the metrics

A total is a sum over the updates of all calls.  A call that is refused counts its failures by
their kinds and nothing else, and one that is cancelled counts its patterns only.  A call that is
completed counts its patterns, each of its lines once under what became of it, and one duration.
-/

namespace LogPattern

/-! ## Totals -/

namespace MetricUpdate

def addedTo (test : Series → Bool) (updates : List MetricUpdate) : Nat :=
  ((updates.filter (test ·.series)).map (·.amount)).sum

def totalOf (updates : List MetricUpdate) (metric : Metric) : Nat :=
  addedTo (·.metric = metric) updates

variable {test : Series → Bool} {updates : List MetricUpdate}

theorem total_eq_addedTo (updates : List MetricUpdate) (series : Series) :
    total updates series = addedTo (· = series) updates := by
  rw [total, addedTo, List.sum_eq_foldl, List.foldl_map]

@[simp] theorem addedTo_nil (test : Series → Bool) : addedTo test [] = 0 := rfl

@[simp] theorem addedTo_cons (test : Series → Bool) (update : MetricUpdate)
    (updates : List MetricUpdate) :
    addedTo test (update :: updates) =
      (if test update.series then update.amount else 0) + addedTo test updates := by
  by_cases htest : test update.series = true
  · simp [addedTo, htest]
  · simp [addedTo, htest]

@[simp] theorem addedTo_append (test : Series → Bool) (updates others : List MetricUpdate) :
    addedTo test (updates ++ others) = addedTo test updates + addedTo test others := by
  simp [addedTo]

theorem total_singleton (update : MetricUpdate) (series : Series) :
    total [update] series = if update.series = series then update.amount else 0 := by
  simp [total_eq_addedTo]

theorem total_append (updates others : List MetricUpdate) (series : Series) :
    total (updates ++ others) series = total updates series + total others series := by
  simp only [total_eq_addedTo, addedTo_append]

/-- The total over several calls is the sum of their totals. -/
theorem total_flatMap {α : Type} (updatesOf : α → List MetricUpdate) (items : List α)
    (series : Series) :
    total (items.flatMap updatesOf) series =
      (items.map fun item => total (updatesOf item) series).sum := by
  induction items with
  | nil => rfl
  | cons item items ih => rw [List.flatMap_cons, total_append, ih, List.map_cons, List.sum_cons]

theorem addedTo_map_one {α : Type} (test : Series → Bool) (seriesOf : α → Series)
    (items : List α) :
    addedTo test (items.map fun item => ⟨seriesOf item, 1⟩) =
      items.countP fun item => test (seriesOf item) := by
  induction items with
  | nil => rfl
  | cons item items ih =>
      rw [List.map_cons, addedTo_cons, ih, List.countP_cons, Nat.add_comm]

theorem addedTo_filter_pos (test : Series → Bool) (updates : List MetricUpdate) :
    addedTo test (updates.filter (0 < ·.amount)) = addedTo test updates := by
  induction updates with
  | nil => rfl
  | cons update updates ih =>
      by_cases hpos : 0 < update.amount
      · rw [List.filter_cons_of_pos (by simpa using hpos), addedTo_cons, addedTo_cons, ih]
      · rw [List.filter_cons_of_neg (by simpa using hpos), addedTo_cons, ih]
        have hzero : update.amount = 0 := by omega
        simp [hzero]

/-! ## Results -/

theorem addedTo_ofResults (test : Series → Bool) (results : List LineResult) :
    addedTo test (ofResults results) =
      (OutcomeKind.all.map fun kind =>
        if test (.linesProcessed kind) then results.countP (·.outcome.kind = kind) else 0).sum := by
  rw [ofResults, addedTo_filter_pos]
  simp [OutcomeKind.all]

theorem total_ofResults (results : List LineResult) (kind : OutcomeKind) :
    total (ofResults results) (.linesProcessed kind) =
      results.countP (·.outcome.kind = kind) := by
  rw [total_eq_addedTo, addedTo_ofResults]
  cases kind <;> simp [OutcomeKind.all]

theorem total_ofResults_of_ne (results : List LineResult) {series : Series}
    (h : series.metric ≠ .linesProcessed) : total (ofResults results) series = 0 := by
  rw [total_eq_addedTo, addedTo_ofResults]
  have hother : ∀ kind, ¬ Series.linesProcessed kind = series := by
    intro kind hsame
    subst hsame
    exact h rfl
  simp [hother]

theorem totalOf_ofResults (results : List LineResult) :
    totalOf (ofResults results) .linesProcessed = results.length := by
  rw [totalOf, addedTo_ofResults]
  induction results with
  | nil => rfl
  | cons result results ih =>
      simp only [Series.metric, decide_true, if_true, List.countP_cons, List.length_cons] at ih ⊢
      rw [← ih]
      cases result.outcome.kind <;> simp [OutcomeKind.all] <;> omega

end MetricUpdate

/-! ## Calls -/

namespace Call

open MetricUpdate

def cause? (call : Call) (definition : PatternDefinition) : Option CompileError :=
  PatternDefinition.compileError? call.engine.registry call.engine.settings.maxRecursionDepth
    definition

/-- What a call adds to the metrics. -/
structure Accounts (call : Call) : Prop where
  refused : (∃ definition ∈ call.definitions, ¬ call.engine.Compiles definition.pattern) →
    totalOf call.recorded.metrics .compileErrors =
        call.definitions.countP (fun definition => (call.cause? definition).isSome) ∧
      (∀ kind, total call.recorded.metrics (.compileErrors kind) =
        call.definitions.countP fun definition =>
          (call.cause? definition).any (·.kind = kind)) ∧
      ∀ series, series.metric ≠ .compileErrors → total call.recorded.metrics series = 0
  cancelled : call.recorded.value = .error .cancelled →
    total call.recorded.metrics .patternsCompiled = call.definitions.length ∧
      ∀ series, series ≠ .patternsCompiled → total call.recorded.metrics series = 0
  completed : ∀ outcome, call.recorded.value = .ok outcome → outcome.success = true →
    total call.recorded.metrics .patternsCompiled = call.definitions.length ∧
      (∀ kind, total call.recorded.metrics (.linesProcessed kind) =
        outcome.results.countP (·.outcome.kind = kind)) ∧
      totalOf call.recorded.metrics .linesProcessed = call.texts.length ∧
      total call.recorded.metrics .validationDuration = 1 ∧
      ∀ kind, total call.recorded.metrics (.compileErrors kind) = 0
  /-- There is no other way for a call to end. -/
  ends : (∃ definition ∈ call.definitions, ¬ call.engine.Compiles definition.pattern) ∨
    call.recorded.value = .error .cancelled ∨
    ∃ outcome, call.recorded.value = .ok outcome ∧ outcome.success = true

theorem addedTo_failures (call : Call) (test : Series → Bool) :
    addedTo test (call.failures.map fun failure => ⟨.compileErrors failure.cause.kind, 1⟩) =
      call.definitions.countP fun definition =>
        (call.cause? definition).any fun cause => test (.compileErrors cause.kind) := by
  rw [addedTo_map_one]
  exact PatternDefinition.countP_failures _ _ _ fun cause => test (.compileErrors cause.kind)

theorem accounts_of_refused {call : Call} (hsome : call.failures ≠ [])
    (hvalue : call.recorded.value =
      .ok (.failed (CompileFailure.summary call.failures call.definitions.length)))
    (hmetrics : call.recorded.metrics =
      call.failures.map fun failure => ⟨.compileErrors failure.cause.kind, 1⟩) :
    call.Accounts where
  refused := by
    intro _
    rw [hmetrics]
    refine ⟨?_, ?_, ?_⟩
    · rw [totalOf, addedTo_failures]
      refine List.countP_congr fun definition _ => ?_
      cases call.cause? definition with
      | none => simp
      | some cause => simp [Series.metric]
    · intro kind
      rw [total_eq_addedTo, addedTo_failures]
      simp
    · intro series hother
      have hfailure : ∀ kind, ¬ Series.compileErrors kind = series := by
        intro kind hsame
        subst hsame
        exact hother rfl
      rw [total_eq_addedTo, addedTo_failures]
      simp [hfailure]
  cancelled := by
    intro hcancelled
    rw [hvalue] at hcancelled
    cases hcancelled
  completed := by
    intro outcome houtcome hsuccess
    rw [hvalue] at houtcome
    cases houtcome
    cases hsuccess
  ends := by
    left
    by_contra hall
    exact hsome (call.failures_eq_nil_iff.2 (by simpa using hall))

theorem accounts_of_cancelled {call : Call} (hnone : call.failures = [])
    (hvalue : call.recorded.value = .error .cancelled)
    (hmetrics : call.recorded.metrics = [⟨.patternsCompiled, call.definitions.length⟩]) :
    call.Accounts where
  refused := by
    intro ⟨definition, hmem, hfails⟩
    exact absurd (call.failures_eq_nil_iff.1 hnone definition hmem) hfails
  cancelled := by
    intro _
    rw [hmetrics]
    refine ⟨by simp [total_singleton], ?_⟩
    intro series hother
    rw [total_singleton, if_neg (Ne.symm hother)]
  completed := by
    intro outcome houtcome _
    rw [hvalue] at houtcome
    cases houtcome
  ends := .inr (.inl hvalue)

theorem accounts_of_completed {call : Call} {results : List LineResult}
    (hnone : call.failures = []) (hlength : results.length = call.texts.length)
    (hvalue : call.recorded.value = .ok (.completed results))
    (hmetrics : call.recorded.metrics = [⟨.patternsCompiled, call.definitions.length⟩] ++
      MetricUpdate.ofResults results ++ [⟨.validationDuration, 1⟩]) :
    call.Accounts where
  refused := by
    intro ⟨definition, hmem, hfails⟩
    exact absurd (call.failures_eq_nil_iff.1 hnone definition hmem) hfails
  cancelled := by
    intro hcancelled
    rw [hvalue] at hcancelled
    cases hcancelled
  completed := by
    intro outcome houtcome _
    rw [hvalue] at houtcome
    cases houtcome
    have htotal : ∀ series, total call.recorded.metrics series =
        (if Series.patternsCompiled = series then call.definitions.length else 0) +
          total (ofResults results) series +
          if Series.validationDuration = series then 1 else 0 := by
      intro series
      rw [hmetrics, total_append, total_append, total_singleton, total_singleton]
    have hrest : ∀ series, series.metric ≠ .linesProcessed →
        total (ofResults results) series = 0 :=
      fun series hother => total_ofResults_of_ne results hother
    refine ⟨?_, ?_, ?_, ?_, ?_⟩
    · rw [htotal, hrest .patternsCompiled (by decide)]
      simp
    · intro kind
      rw [htotal, total_ofResults]
      simp [ValidationOutcome.completed]
    · have hlines := totalOf_ofResults results
      rw [totalOf] at hlines ⊢
      rw [hmetrics, addedTo_append, addedTo_append, hlines, hlength]
      show 0 + call.texts.length + 0 = call.texts.length
      omega
    · rw [htotal, hrest .validationDuration (by decide)]
      simp
    · intro kind
      rw [htotal, hrest (.compileErrors kind) (by simp [Series.metric])]
      simp
  ends := .inr (.inr ⟨_, hvalue, rfl⟩)

/--
Every call is refused, cancelled or completed, and adds to the metrics what this comes to.
Over any sequence of calls the totals are the sums of what the calls add.
-/
theorem metrics_conserved (calls : List Call) :
    (∀ call ∈ calls, call.Accounts) ∧
      ∀ series, total (calls.flatMap (·.recorded.metrics)) series =
        (calls.map fun call => total call.recorded.metrics series).sum := by
  refine ⟨?_, total_flatMap _ calls⟩
  intro call _
  rcases call.recorded_cases with ⟨hsome, hvalue, hmetrics⟩ |
    ⟨hnone, _, _, _, hvalue, hmetrics⟩ | ⟨hnone, patterns, results, _, hresults, hvalue, hmetrics⟩
  · exact accounts_of_refused hsome hvalue hmetrics
  · exact accounts_of_cancelled hnone hvalue hmetrics
  · have hmay := call.mayMatch patterns
    rw [hresults] at hmay
    obtain ⟨_, hlength, _⟩ := hmay.exists_results
    exact accounts_of_completed hnone hlength hvalue hmetrics

/-- A call for each way to end: one of two definitions fails, cancellation, two lines matched. -/
theorem metrics_conserved_three_calls :
    let refused := amid (plainEngine 256 2) .none ["a"] [⟨none, "bad", ""⟩, ⟨none, "good", "a"⟩]
    let cancelled := amid (plainEngine 0 2) (.ofCancellation .beforehand) ["a"] [⟨none, "w", "a"⟩]
    let completed := amid (plainEngine 256 2) .none ["a", "b"] [⟨none, "w", "a"⟩]
    totalOf refused.recorded.metrics .compileErrors = 1 ∧
      totalOf completed.recorded.metrics .linesProcessed = 2 ∧
      total ([refused, cancelled, completed].flatMap (·.recorded.metrics)) .patternsCompiled =
        2 := by
  intro refused cancelled completed
  obtain ⟨haccounts, hsum⟩ := metrics_conserved [refused, cancelled, completed]
  have hbad : ∃ definition ∈ refused.definitions,
      ¬ refused.engine.Compiles definition.pattern := by
    refine ⟨⟨none, "bad", ""⟩, List.mem_cons_self, ?_⟩
    exact except_exists_error_iff.1 ⟨.emptyPattern, eq_error_of_error? (by decide +kernel)⟩
  have hcancelled : cancelled.recorded.value = .error .cancelled :=
    eq_error_of_error? (by decide +kernel)
  obtain ⟨outcome, hcompleted, hsuccess⟩ : ∃ outcome, completed.recorded.value = .ok outcome ∧
      outcome.success = true := except_exists_ok (by decide +kernel)
  have herrors := ((haccounts refused (by simp)).refused hbad).1
  have hnothing := ((haccounts refused (by simp)).refused hbad).2.2 .patternsCompiled (by decide)
  have hpatterns := ((haccounts cancelled (by simp)).cancelled hcancelled).1
  obtain ⟨hpatterns', -, hlines, -⟩ :=
    (haccounts completed (by simp)).completed outcome hcompleted hsuccess
  refine ⟨herrors.trans (by decide +kernel), hlines, ?_⟩
  rw [hsum]
  show total refused.recorded.metrics .patternsCompiled +
    (total cancelled.recorded.metrics .patternsCompiled +
      (total completed.recorded.metrics .patternsCompiled + 0)) = 2
  rw [hnothing, hpatterns, hpatterns']
  rfl

end Call

end LogPattern
