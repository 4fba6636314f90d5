import LogPattern.Proofs.Validation.Collection
import LogPattern.Proofs.Validation.Compilation
import LogPattern.Validation.Engine
import Mathlib.Data.List.Forall2
import Mathlib.Data.List.TakeWhile

/-!
# Answers to requests

A request is refused, or every one of its lines gets its result.  Neither the number
of workers nor the number of lines from which workers are used is seen in the answer.
-/

namespace LogPattern

/-! ## Blank lines -/

theorem trimLeft_eq_nil_iff (text : List Char) :
    trimLeft text = [] ↔ ∀ c ∈ text, isWhite c = true := by
  rw [trimLeft, List.dropWhile_eq_nil_iff]

theorem isBlank_iff_trimText (text : String) : isBlank text = true ↔ trimText text = "" := by
  have hempty : trimText text = "" ↔ trim text.toList = [] := by
    rw [trimText, ← String.toList_inj, String.toList_ofList]
    rfl
  rw [hempty, isBlank, List.all_eq_true, trim, trimRight, List.reverse_eq_nil_iff,
    trimLeft_eq_nil_iff]
  simp only [List.mem_reverse]
  constructor
  · intro hall c hc
    exact hall c ((List.dropWhile_suffix _).subset hc)
  · intro hall
    -- the first character that is left, if there were one, would not be white
    rw [← trimLeft_eq_nil_iff]
    by_contra hleft
    have hhead := List.head_dropWhile_not isWhite hleft
    have hwhite := hall _ (List.head_mem hleft)
    simp [trimLeft, hhead] at hwhite

/-! ## The first pattern that matches -/

theorem firstMatchFrom_eq_map (start : Nat) (patterns : List CompiledPattern) (text : String) :
    firstMatchFrom start patterns text =
      (firstMatch patterns text).map fun found => (start + found.1, found.2) := by
  rw [firstMatch]
  induction patterns generalizing start with
  | nil => rfl
  | cons pattern rest ih =>
      rw [firstMatchFrom, firstMatchFrom]
      cases pattern.matchLine text with
      | some fields => rfl
      | none =>
          rw [ih (start + 1), ih (0 + 1), Option.map_map]
          simp only [Function.comp_def, Nat.zero_add, Nat.add_assoc]

theorem firstMatch_cons (pattern : CompiledPattern) (rest : List CompiledPattern) (text : String) :
    firstMatch (pattern :: rest) text =
      match pattern.matchLine text with
      | some fields => some (0, fields)
      | none => (firstMatch rest text).map fun found => (1 + found.1, found.2) := by
  cases hmatch : pattern.matchLine text with
  | some fields => simp only [firstMatch, firstMatchFrom, hmatch]
  | none =>
      have hrest := firstMatchFrom_eq_map 1 rest text
      simp only [firstMatch, firstMatchFrom, hmatch, hrest, Nat.zero_add]

theorem firstMatch_eq_none_iff (patterns : List CompiledPattern) (text : String) :
    firstMatch patterns text = none ↔ ∀ pattern ∈ patterns, pattern.matchLine text = none := by
  induction patterns with
  | nil => simp [firstMatch, firstMatchFrom]
  | cons pattern rest ih =>
      rw [firstMatch_cons]
      cases hmatch : pattern.matchLine text with
      | some fields => simp [hmatch]
      | none => simp [hmatch, ih]

/-- Of several patterns that match, the one of least index counts. -/
theorem firstMatch_eq_some_iff (patterns : List CompiledPattern) (text : String) (index : Nat)
    (fields : FieldMap) :
    firstMatch patterns text = some (index, fields) ↔
      (∃ pattern, patterns[index]? = some pattern ∧ pattern.matchLine text = some fields) ∧
        ∀ pattern ∈ patterns.take index, pattern.matchLine text = none := by
  induction patterns generalizing index with
  | nil => simp [firstMatch, firstMatchFrom]
  | cons pattern rest ih =>
      rw [firstMatch_cons]
      cases hmatch : pattern.matchLine text with
      | some found =>
          cases index with
          | zero => simp [hmatch]
          | succ index => simp [hmatch]
      | none =>
          cases index with
          | zero => simp [hmatch]
          | succ index => simp [hmatch, ← ih index, Nat.add_comm 1]

/-! ## Outcomes of lines -/

namespace LineOutcome

/-- The outcome of a text that is tried on patterns in order. -/
def IsOf (outcome : LineOutcome) (patterns : List CompiledPattern) (text : String) : Prop :=
  (outcome = .empty ↔ trimText text = "") ∧
    (∀ index fields, outcome = .matched index fields ↔
      trimText text ≠ "" ∧
        (∃ pattern, patterns[index]? = some pattern ∧ pattern.matchLine text = some fields) ∧
        ∀ pattern ∈ patterns.take index, pattern.matchLine text = none) ∧
    (outcome = .noMatch ↔
      trimText text ≠ "" ∧ ∀ pattern ∈ patterns, pattern.matchLine text = none) ∧
    (outcome.fields?.isSome ↔ outcome.errorMessage? = none)

theorem fields_isSome_iff (outcome : LineOutcome) :
    outcome.fields?.isSome ↔ outcome.errorMessage? = none := by
  cases outcome <;> simp [fields?, errorMessage?]

end LineOutcome

theorem outcome_process_isOf (patterns : List CompiledPattern) (line : LogLine) :
    (line.process (Matcher.ofPatterns patterns)).outcome.IsOf patterns line.text := by
  have hblank := isBlank_iff_trimText line.text
  have hfound := firstMatch_eq_some_iff patterns line.text
  have hmissed := firstMatch_eq_none_iff patterns line.text
  rw [LineOutcome.IsOf, LogLine.process, LogLine.isBlank, Matcher.ofPatterns, ← hblank, ← hmissed]
  simp only [ne_eq, ← hblank, ← hfound]
  by_cases hwhite : isBlank line.text = true
  · simp [hwhite, LineOutcome.fields_isSome_iff]
  · rw [if_neg hwhite]
    cases hfirst : firstMatch patterns line.text with
    | none => simp [hwhite, LineOutcome.fields_isSome_iff]
    | some found => simp [hwhite, Prod.ext_iff, LineOutcome.fields_isSome_iff]

/-! ## Batches that nothing befalls -/

namespace Engine

def Compiles (engine : Engine) (pattern : String) : Prop :=
  ∃ compiled, CompiledPattern.compile engine.registry.lookup? engine.settings.maxRecursionDepth
    pattern = .ok compiled

def definitionOf (named : NamedPattern) : PatternDefinition := ⟨none, named.name, named.pattern⟩

theorem results_matchLines_none (engine : Engine) (patterns : List CompiledPattern)
    (texts : List String) :
    (engine.matchLines .none patterns (LogLine.numbered texts)).results? =
      some ((LogLine.numbered texts).map (LogLine.process (Matcher.ofPatterns patterns))) := by
  have hmatcher : (Matcher.ofPatterns patterns).breakingOff Mishaps.none.matchFault? =
      Matcher.ofPatterns patterns := rfl
  unfold matchLines
  dsimp only
  rw [hmatcher]
  split
  · have hstops : (LogLine.numbered texts).any Mishaps.none.cancellation.stopsBefore = false := by
      simp [Mishaps.none, Cancellation.stopsBefore]
    rw [matchInOrder_eq, hstops]
    rfl
  · exact results_matchWithWorkers_none _ _ _

theorem value_validate_none {engine : Engine} {definitions : List PatternDefinition}
    {patterns : List CompiledPattern} (texts : List String)
    (h : PatternDefinition.CompileTo engine.registry engine.settings.maxRecursionDepth definitions
      patterns) :
    (engine.validate .none texts definitions).value =
      .completed ((LogLine.numbered texts).map
        (LogLine.process (Matcher.ofPatterns patterns))) := by
  have hcompiled : (engine.compileAll definitions).value = .ok patterns := h.compileAll
  simp only [validate, validateAmid, validateBy, hcompiled, results_matchLines_none]

theorem value_validate_of_error {engine : Engine} {definitions : List PatternDefinition}
    {definition : PatternDefinition} {e : CompileError} (mishaps : Mishaps) (texts : List String)
    (hmem : definition ∈ definitions)
    (he : CompiledPattern.compile engine.registry.lookup? engine.settings.maxRecursionDepth
      definition.pattern = .error e) :
    ∃ reason, (engine.validate mishaps texts definitions).value = .failed reason := by
  have hsome := PatternDefinition.failures_ne_nil_iff.2 ⟨definition, hmem, e, he⟩
  have hcompiled : (engine.compileAll definitions).value = .error (PatternDefinition.failures
      engine.registry engine.settings.maxRecursionDepth definitions) :=
    PatternDefinition.value_compileAll_eq_error_iff.2 ⟨rfl, hsome⟩
  exact ⟨_, by simp only [validate, validateAmid, validateBy, hcompiled]; rfl⟩

/-- A request is refused for its lines, for their number, or for its patterns. -/
def Refuses (engine : Engine) (request : ValidationRequest) : Prop :=
  request.logLines = [] ∨ request.patterns = [] ∨
    engine.settings.maxLines < request.logLines.length ∨
    ∃ named ∈ request.patterns, ∃ e,
      CompiledPattern.compile engine.registry.lookup? engine.settings.maxRecursionDepth
        named.pattern = .error e

theorem requestProblem?_eq_none_iff (engine : Engine) (request : ValidationRequest) :
    engine.requestProblem? request = none ↔
      request.logLines ≠ [] ∧ request.patterns ≠ [] ∧
        ¬ engine.settings.maxLines < request.logLines.length := by
  unfold requestProblem?
  by_cases hlines : request.logLines = []
  · simp [hlines]
  · by_cases hpatterns : request.patterns = []
    · simp [hlines, hpatterns]
    · simp [hlines, hpatterns]

theorem value_handleRequest_of_refuses {engine : Engine} {request : ValidationRequest}
    (h : engine.Refuses request) :
    ∃ reason, (engine.handleRequest request).value = .failed reason := by
  unfold handleRequest
  split
  · next problem _ => exact ⟨problem.message, rfl⟩
  · next hproblem =>
      obtain ⟨hlines, hpatterns, hfew⟩ := (requestProblem?_eq_none_iff engine request).1 hproblem
      rcases h with h | h | h | ⟨named, hmem, e, he⟩
      · exact absurd h hlines
      · exact absurd h hpatterns
      · exact absurd h hfew
      · exact value_validate_of_error .none request.logLines
          (List.mem_map_of_mem (f := definitionOf) hmem) he

theorem value_handleRequest_of_not_refuses {engine : Engine} {request : ValidationRequest}
    (h : ¬ engine.Refuses request) :
    ∃ patterns, List.Forall₂ (fun named pattern =>
        CompiledPattern.compile engine.registry.lookup? engine.settings.maxRecursionDepth
          named.pattern = .ok pattern) request.patterns patterns ∧
      (engine.handleRequest request).value =
        .completed ((LogLine.numbered request.logLines).map
          (LogLine.process (Matcher.ofPatterns patterns))) := by
  simp only [Refuses, not_or] at h
  obtain ⟨hlines, hpatterns, hmany, hcompile⟩ := h
  have hproblem := (requestProblem?_eq_none_iff engine request).2 ⟨hlines, hpatterns, hmany⟩
  rcases PatternDefinition.compileTo_or_exists_error engine.registry
    engine.settings.maxRecursionDepth (request.patterns.map definitionOf) with
    ⟨patterns, hall⟩ | ⟨definition, hmem, e, he⟩
  · refine ⟨patterns, List.forall₂_map_left_iff.1 hall, ?_⟩
    rw [handleRequest, hproblem]
    exact value_validate_none request.logLines hall
  · obtain ⟨named, hnamed, rfl⟩ := List.mem_map.1 hmem
    exact absurd ⟨named, hnamed, e, he⟩ hcompile

/--
A request is answered with a refusal or with one result for each line, in order: its
number and text, and what becomes of the text when the patterns are tried in order.
-/
theorem handleRequest_outcome (engine : Engine) (request : ValidationRequest) :
    ((engine.handleRequest request).value.success = false ↔ engine.Refuses request) ∧
      (engine.Refuses request →
        (engine.handleRequest request).value.results = [] ∧
          (engine.handleRequest request).value.error?.isSome) ∧
      (¬ engine.Refuses request →
        (engine.handleRequest request).value.error? = none ∧
          (engine.handleRequest request).value.results.length = request.logLines.length ∧
          ∃ patterns, List.Forall₂ (fun named pattern =>
              CompiledPattern.compile engine.registry.lookup?
                engine.settings.maxRecursionDepth named.pattern = .ok pattern)
              request.patterns patterns ∧
            ∀ (k : Nat) (text : String), request.logLines[k]? = some text →
              ∃ outcome : LineOutcome, outcome.IsOf patterns text ∧
                (engine.handleRequest request).value.results[k]? =
                  some ⟨⟨k + 1, text⟩, outcome⟩) := by
  by_cases hrefuses : engine.Refuses request
  · obtain ⟨reason, hvalue⟩ := value_handleRequest_of_refuses hrefuses
    simp [hrefuses, hvalue, ValidationOutcome.failed]
  · obtain ⟨patterns, hall, hvalue⟩ := value_handleRequest_of_not_refuses hrefuses
    rw [hvalue]
    refine ⟨by simp [ValidationOutcome.completed, hrefuses], fun h => absurd h hrefuses,
      fun _ => ⟨rfl, by simp [ValidationOutcome.completed], patterns, hall, ?_⟩⟩
    intro k text htext
    refine ⟨_, outcome_process_isOf patterns ⟨k + 1, text⟩, ?_⟩
    simp [ValidationOutcome.completed, LogLine.getElem?_numbered, htext]
    rfl

end Engine

end LogPattern
