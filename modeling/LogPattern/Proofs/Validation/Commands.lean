import LogPattern.Command.Validate
import LogPattern.Proofs.Success
import LogPattern.Proofs.Validation.Answer
import Mathlib

/-!
# Two ways to validate

Patterns and lines are given one by one, or together in a request.  Both ways come to the same
outcome and report it alike.  Where a pattern does not compile, both commands fail, but only
the first one says so by its exit code: a refused request is a failure like any other.
-/

namespace LogPattern

namespace Engine

variable {engine : Engine}

theorem value_validateAmid_none (engine : Engine) (texts : List String)
    (definitions : List PatternDefinition) :
    (engine.validateAmid .none texts definitions).value =
      .ok (engine.validate .none texts definitions).value := by
  rw [validate, validateAmid, validateBy]
  cases hcompiled : (engine.compileAll definitions).value with
  | error failures => rfl
  | ok patterns => simp only [results_matchLines_none]

theorem exists_completed {definitions : List PatternDefinition} (texts : List String)
    (h : ∀ definition ∈ definitions, engine.Compiles definition.pattern) :
    ∃ results, (engine.validate .none texts definitions).value = .completed results := by
  rcases PatternDefinition.compileTo_or_exists_error engine.registry
    engine.settings.maxRecursionDepth definitions with ⟨patterns, hall⟩ | ⟨definition, hmem, e, he⟩
  · exact ⟨_, value_validate_none texts hall⟩
  · obtain ⟨compiled, hcompiled⟩ := h definition hmem
    rw [he] at hcompiled
    cases hcompiled

theorem exists_failed {definitions : List PatternDefinition} {definition : PatternDefinition}
    (texts : List String) (hmem : definition ∈ definitions)
    (h : ¬ engine.Compiles definition.pattern) :
    ∃ reason, (engine.validate .none texts definitions).value = .failed reason := by
  cases hcompile : CompiledPattern.compile engine.registry.lookup?
    engine.settings.maxRecursionDepth definition.pattern with
  | ok compiled => exact absurd ⟨compiled, hcompile⟩ h
  | error e => exact value_validate_of_error .none texts hmem hcompile

end Engine

namespace Surroundings

variable {around : Surroundings} {engine : Engine} {patterns : List String}
  {logPath requestPath text : String}

def numberedPatterns (patterns : List String) : List NamedPattern :=
  (patterns.zipIdx 1).map fun (pattern, place) => ⟨s!"pattern-{place}", pattern⟩

theorem definitionOf_numberedPatterns (patterns : List String) :
    (numberedPatterns patterns).map Engine.definitionOf = numberedDefinitions patterns := by
  rw [numberedPatterns, numberedDefinitions, List.map_map]
  rfl

theorem name_numberedPatterns (patterns : List String) :
    (numberedPatterns patterns).map (·.name) = (numberedDefinitions patterns).map (·.name) := by
  rw [← definitionOf_numberedPatterns, List.map_map]
  rfl

theorem pattern_numberedDefinitions (patterns : List String) :
    (numberedDefinitions patterns).map (·.pattern) = patterns := by
  rw [numberedDefinitions, List.map_map]
  exact List.zipIdx_map_fst 1 patterns

/--
The same lines and patterns are given both ways, in numbers that the engine takes, and nobody
interrupts the work.
-/
structure GivenTwice (around : Surroundings) (engine : Engine) (patterns : List String)
    (logPath requestPath text : String) : Prop where
  quiet : around.interruption = .never
  nonempty : patterns ≠ []
  logFile : around.files.readText logPath = .ok text
  lines : linesOf text ≠ []
  few : (linesOf text).length ≤ engine.settings.maxLines
  request : around.readRequest requestPath = .ok ⟨linesOf text, numberedPatterns patterns⟩

namespace GivenTwice

theorem validateBatch_eq (h : GivenTwice around engine patterns logPath requestPath text) :
    ∃ events, around.validateBatch engine ⟨patterns, none, some logPath⟩ =
      .after events (reportOutcome
        (engine.validate .none (linesOf text) (numberedDefinitions patterns)).value
        ((numberedDefinitions patterns).map (·.name)) .patterns) := by
  have hdefinitions : checkDefinitions (numberedDefinitions patterns) = .ok () := by
    rw [checkDefinitions, if_neg]
    simpa [numberedDefinitions] using h.nonempty
  have hgathered : around.gatherLines ⟨patterns, none, some logPath⟩ = .ok (linesOf text) := by
    simp only [gatherLines, readFile, h.logFile, Except.mapError, Except.map]
  have hchecked : checkLines (linesOf text) engine.settings.maxLines = .ok () := by
    rw [checkLines, if_neg (by simpa using h.lines), if_neg (Nat.not_lt.2 h.few)]
  have hnone : Mishaps.ofCancellation around.interruption = .none := by
    rw [h.quiet]
    rfl
  have hrun : ∃ events, around.validateLines engine (linesOf text) (numberedDefinitions patterns) =
      .after events (reportOutcome
        (engine.validate .none (linesOf text) (numberedDefinitions patterns)).value
        ((numberedDefinitions patterns).map (·.name)) .patterns) := by
    simp only [validateLines, hnone, Engine.value_validateAmid_none]
    exact ⟨_, rfl⟩
  obtain ⟨events, hrun⟩ := hrun
  simp only [validateBatch, gatherDefinitions, Transcript.proceedLogged, Transcript.proceed,
    hdefinitions, hgathered, hchecked, hrun, Transcript.after_after]
  exact ⟨_, rfl⟩

theorem answerRequest_eq (h : GivenTwice around engine patterns logPath requestPath text) :
    ∃ events, around.answerRequest engine requestPath =
      .after events (reportOutcome
        (engine.validate .none (linesOf text) (numberedDefinitions patterns)).value
        ((numberedDefinitions patterns).map (·.name)) .refused) := by
  have hpatterns : numberedPatterns patterns ≠ [] := by
    simpa [numberedPatterns] using h.nonempty
  have hproblem : engine.requestProblem? ⟨linesOf text, numberedPatterns patterns⟩ = none :=
    (Engine.requestProblem?_eq_none_iff _ _).2 ⟨h.lines, hpatterns, Nat.not_lt.2 h.few⟩
  have hanswer : engine.handleRequest ⟨linesOf text, numberedPatterns patterns⟩ =
      engine.validate .none (linesOf text) (numberedDefinitions patterns) := by
    rw [Engine.handleRequest, hproblem, ← definitionOf_numberedPatterns]
    rfl
  simp only [answerRequest, h.request, Transcript.proceed, hanswer, name_numberedPatterns,
    Transcript.after_after]
  exact ⟨_, rfl⟩

theorem exists_report (h : GivenTwice around engine patterns logPath requestPath text) :
    ∃ report, (around.validateBatch engine ⟨patterns, none, some logPath⟩).report? = some report ∧
      (around.answerRequest engine requestPath).report? = some report := by
  obtain ⟨batchEvents, hbatch⟩ := h.validateBatch_eq
  obtain ⟨requestEvents, hanswer⟩ := h.answerRequest_eq
  rw [hbatch, hanswer]
  exact ⟨_, rfl, rfl⟩

theorem exitCode_of_compiles (h : GivenTwice around engine patterns logPath requestPath text)
    (hall : ∀ pattern ∈ patterns, engine.Compiles pattern) :
    (around.validateBatch engine ⟨patterns, none, some logPath⟩).exitCode = 0 ∧
      (around.answerRequest engine requestPath).exitCode = 0 := by
  obtain ⟨batchEvents, hbatch⟩ := h.validateBatch_eq
  obtain ⟨requestEvents, hanswer⟩ := h.answerRequest_eq
  have hdefinitions : ∀ definition ∈ numberedDefinitions patterns,
      engine.Compiles definition.pattern := fun definition hdefinition =>
    hall _ (pattern_numberedDefinitions patterns ▸ List.mem_map_of_mem hdefinition)
  obtain ⟨results, hresults⟩ := Engine.exists_completed (linesOf text) hdefinitions
  rw [hbatch, hanswer, hresults]
  exact ⟨rfl, rfl⟩

theorem exitCode_of_not_compiles (h : GivenTwice around engine patterns logPath requestPath text)
    {pattern : String} (hmem : pattern ∈ patterns) (hnot : ¬ engine.Compiles pattern) :
    (around.validateBatch engine ⟨patterns, none, some logPath⟩).exitCode = 3 ∧
      (around.answerRequest engine requestPath).exitCode = 1 := by
  obtain ⟨batchEvents, hbatch⟩ := h.validateBatch_eq
  obtain ⟨requestEvents, hanswer⟩ := h.answerRequest_eq
  rw [← pattern_numberedDefinitions patterns] at hmem
  obtain ⟨definition, hdefinition, rfl⟩ := List.mem_map.1 hmem
  obtain ⟨reason, hreason⟩ := Engine.exists_failed (linesOf text) hdefinition hnot
  rw [hbatch, hanswer, hreason]
  exact ⟨rfl, rfl⟩

end GivenTwice

def withFiles (log request : String) : Surroundings :=
  ⟨⟨.directory [("log", .file log.toUTF8), ("req", .file request.toUTF8)], []⟩, ⟨#[]⟩, .empty,
    1, .never⟩

theorem readText_log (log request : String) :
    (withFiles log request).files.readText "log" = .ok log :=
  FileTree.readText_of_resolve (by cbv)

theorem readRequest_withFiles {log text : String} {request : ValidationRequest}
    (h : ValidationRequest.ofText? text = some request) :
    (withFiles log text).readRequest "req" = .ok request := by
  have hread : (withFiles log text).files.readText "req" = .ok text :=
    FileTree.readText_of_resolve (by cbv)
  rw [readRequest, readFile, hread]
  dsimp only [Except.mapError]
  rw [h]

def digitEngine : Engine :=
  ⟨(Registry.empty.registerAll [⟨"D", "[0-9]"⟩]).registry, .default, 1⟩

/--
Patterns given one by one with a log file, and a request with the same lines and patterns,
come to the same report.  Both commands succeed if all patterns compile.  If one does not, the
first one ends with the exit code for patterns, and the second one with that for anything else.
-/
theorem validateBatch_answerRequest
    (h : GivenTwice around engine patterns logPath requestPath text) :
    (∃ report, (around.validateBatch engine ⟨patterns, none, some logPath⟩).report? = some report ∧
      (around.answerRequest engine requestPath).report? = some report) ∧
    ((∀ pattern ∈ patterns, engine.Compiles pattern) →
      (around.validateBatch engine ⟨patterns, none, some logPath⟩).exitCode = 0 ∧
        (around.answerRequest engine requestPath).exitCode = 0) ∧
    ((∃ pattern ∈ patterns, ¬ engine.Compiles pattern) →
      (around.validateBatch engine ⟨patterns, none, some logPath⟩).exitCode = 3 ∧
        (around.answerRequest engine requestPath).exitCode = 1) :=
  ⟨h.exists_report, h.exitCode_of_compiles,
    fun ⟨_, hmem, hnot⟩ => h.exitCode_of_not_compiles hmem hnot⟩

theorem validateBatch_answerRequest_digits :
    let around := withFiles "a1\nb\n" ("\x7b\"logLines\":[\"a1\",\"b\"]," ++
      "\"patterns\":[\x7b\"name\":\"pattern-1\",\"pattern\":\"%{D:n}\"\x7d]\x7d")
    GivenTwice around digitEngine ["%{D:n}"] "log" "req" "a1\nb\n" ∧
      (∀ pattern ∈ ["%{D:n}"], digitEngine.Compiles pattern) ∧
      (around.validateBatch digitEngine ⟨["%{D:n}"], none, some "log"⟩).exitCode = 0 ∧
      (around.answerRequest digitEngine "req").exitCode = 0 := by
  intro around
  have hgiven : GivenTwice around digitEngine ["%{D:n}"] "log" "req" "a1\nb\n" :=
    ⟨rfl, by decide, readText_log _ _, by decide +kernel, by decide +kernel,
      readRequest_withFiles (by decide +kernel)⟩
  have hcompiles : (CompiledPattern.compile digitEngine.registry.lookup?
      digitEngine.settings.maxRecursionDepth "%{D:n}").toOption.any (fun _ => true) = true := by
    decide +kernel
  have hall : ∀ pattern ∈ ["%{D:n}"], digitEngine.Compiles pattern := by
    obtain ⟨compiled, hcompiled, -⟩ := except_exists_ok hcompiles
    intro pattern hpattern
    obtain rfl := List.mem_singleton.1 hpattern
    exact ⟨compiled, hcompiled⟩
  exact ⟨hgiven, hall, (validateBatch_answerRequest hgiven).2.1 hall⟩

/-- A refused request ends with another exit code than the same batch. -/
theorem answerRequest_hides_compile_failure :
    let around := withFiles "a\n" ("\x7b\"logLines\":[\"a\"]," ++
      "\"patterns\":[\x7b\"name\":\"pattern-1\",\"pattern\":\"%{NOPE}\"\x7d]\x7d")
    GivenTwice around digitEngine ["%{NOPE}"] "log" "req" "a\n" ∧
      ¬ digitEngine.Compiles "%{NOPE}" ∧
      (around.validateBatch digitEngine ⟨["%{NOPE}"], none, some "log"⟩).exitCode = 3 ∧
      (around.answerRequest digitEngine "req").exitCode = 1 := by
  intro around
  have hgiven : GivenTwice around digitEngine ["%{NOPE}"] "log" "req" "a\n" :=
    ⟨rfl, by decide, readText_log _ _, by decide +kernel, by decide +kernel,
      readRequest_withFiles (by decide +kernel)⟩
  have herror : CompiledPattern.compile digitEngine.registry.lookup?
      digitEngine.settings.maxRecursionDepth "%{NOPE}" = .error (.unknownReference "NOPE" 0) :=
    eq_error_of_error? (by decide +kernel)
  have hnot : ¬ digitEngine.Compiles "%{NOPE}" := by
    rintro ⟨compiled, hcompiled⟩
    rw [herror] at hcompiled
    cases hcompiled
  exact ⟨hgiven, hnot, hgiven.exitCode_of_not_compiles (List.mem_singleton_self _) hnot⟩

end Surroundings

end LogPattern
