import LogPattern.Proofs.Success
import LogPattern.Validation.Definition
import Mathlib.Data.List.Forall2

/-!
# Compiling all definitions

A definition is compiled whatever has become of those before it.  So the failures are those of
the definitions that do not compile on their own, in order and each at its index, and only where
there are none are there patterns, one for each definition.
-/

namespace LogPattern.PatternDefinition

variable {registry : Registry} {maxDepth : Nat} {definitions : List PatternDefinition}

/-! ## Failures -/

/-- Why a definition does not compile, unless it does. -/
def compileError? (registry : Registry) (maxDepth : Nat) (definition : PatternDefinition) :
    Option CompileError :=
  error? (CompiledPattern.compile registry.lookup? maxDepth definition.pattern)

theorem compileError?_eq_some_iff {definition : PatternDefinition} {cause : CompileError} :
    compileError? registry maxDepth definition = some cause ↔
      CompiledPattern.compile registry.lookup? maxDepth definition.pattern = .error cause := by
  constructor
  · exact eq_error_of_error?
  · intro h
    rw [compileError?, h]
    rfl

def failures (registry : Registry) (maxDepth : Nat) (definitions : List PatternDefinition) :
    List CompileFailure :=
  definitions.zipIdx.filterMap fun (definition, index) =>
    (compileError? registry maxDepth definition).map fun cause => ⟨index, definition.name, cause⟩

theorem filterMap_attempts (registry : Registry) (maxDepth : Nat)
    (definitions : List PatternDefinition) :
    (attempts registry maxDepth definitions).filterMap failure? =
      failures registry maxDepth definitions := by
  rw [attempts, List.filterMap_map, failures]
  refine List.filterMap_congr fun (definition, index) _ => ?_
  simp only [Function.comp_apply, compileError?]
  cases CompiledPattern.compile registry.lookup? maxDepth definition.pattern with
  | ok pattern => rfl
  | error cause => rfl

theorem mem_failures_iff {failure : CompileFailure} :
    failure ∈ failures registry maxDepth definitions ↔
      ∃ definition, definitions[failure.index]? = some definition ∧
        failure.patternName = definition.name ∧
        CompiledPattern.compile registry.lookup? maxDepth definition.pattern =
          .error failure.cause := by
  rw [failures, List.mem_filterMap]
  constructor
  · intro ⟨(definition, index), hplace, hfailure⟩
    obtain ⟨cause, hcause, rfl⟩ := Option.map_eq_some_iff.1 hfailure
    exact ⟨definition, List.mk_mem_zipIdx_iff_getElem?.1 hplace, rfl,
      compileError?_eq_some_iff.1 hcause⟩
  · intro ⟨definition, hplace, hname, hcause⟩
    refine ⟨(definition, failure.index), List.mk_mem_zipIdx_iff_getElem?.2 hplace, ?_⟩
    dsimp only
    rw [compileError?_eq_some_iff.2 hcause, ← hname]
    rfl

theorem failures_pairwise (registry : Registry) (maxDepth : Nat)
    (definitions : List PatternDefinition) :
    (failures registry maxDepth definitions).Pairwise (·.index < ·.index) := by
  have hplaces : definitions.zipIdx.Pairwise (·.2 < ·.2) := by
    rw [← List.pairwise_map (f := Prod.snd) (R := (· < ·)), List.zipIdx_map_snd]
    exact List.pairwise_lt_range'
  rw [failures]
  refine hplaces.filterMap _ fun first second hlt failure hfailure other hother => ?_
  obtain ⟨cause, _, rfl⟩ := Option.map_eq_some_iff.1 hfailure
  obtain ⟨cause', _, rfl⟩ := Option.map_eq_some_iff.1 hother
  exact hlt

/-- There are as many failures of a kind as definitions that fail so. -/
theorem countP_failures (registry : Registry) (maxDepth : Nat)
    (definitions : List PatternDefinition) (test : CompileError → Bool) :
    (failures registry maxDepth definitions).countP (test ·.cause) =
      definitions.countP fun definition =>
        (compileError? registry maxDepth definition).any test := by
  rw [failures, List.countP_filterMap]
  conv => rhs; rw [← List.zipIdx_map_fst 0 definitions, List.countP_map]
  refine List.countP_congr fun (definition, index) _ => ?_
  simp only [Function.comp_apply]
  cases compileError? registry maxDepth definition with
  | none => simp
  | some cause => simp

theorem failures_ne_nil_iff :
    failures registry maxDepth definitions ≠ [] ↔
      ∃ definition ∈ definitions, ∃ cause,
        CompiledPattern.compile registry.lookup? maxDepth definition.pattern = .error cause := by
  constructor
  · intro hsome
    obtain ⟨failure, hmem⟩ := List.exists_mem_of_ne_nil _ hsome
    obtain ⟨definition, hplace, _, hcause⟩ := mem_failures_iff.1 hmem
    exact ⟨definition, List.mem_of_getElem? hplace, failure.cause, hcause⟩
  · intro ⟨definition, hmem, cause, hcause⟩
    obtain ⟨index, hplace⟩ := List.mem_iff_getElem?.1 hmem
    have hfailure : ⟨index, definition.name, cause⟩ ∈ failures registry maxDepth definitions :=
      mem_failures_iff.2 ⟨definition, hplace, rfl, hcause⟩
    exact List.ne_nil_of_mem hfailure

/-! ## Patterns -/

/-- Patterns are those of definitions, one for one. -/
def CompileTo (registry : Registry) (maxDepth : Nat) (definitions : List PatternDefinition)
    (patterns : List CompiledPattern) : Prop :=
  List.Forall₂ (fun definition pattern =>
    CompiledPattern.compile registry.lookup? maxDepth definition.pattern = .ok pattern)
    definitions patterns

theorem compileTo_or_exists_error (registry : Registry) (maxDepth : Nat)
    (definitions : List PatternDefinition) :
    (∃ patterns, CompileTo registry maxDepth definitions patterns) ∨
      ∃ definition ∈ definitions, ∃ e,
        CompiledPattern.compile registry.lookup? maxDepth definition.pattern = .error e := by
  induction definitions with
  | nil => exact .inl ⟨[], .nil⟩
  | cons definition rest ih =>
      cases hcompile : CompiledPattern.compile registry.lookup? maxDepth definition.pattern with
      | error e => exact .inr ⟨definition, List.mem_cons_self, e, hcompile⟩
      | ok pattern =>
          rcases ih with ⟨patterns, hpatterns⟩ | ⟨other, hmem, e, he⟩
          · exact .inl ⟨pattern :: patterns, .cons hcompile hpatterns⟩
          · exact .inr ⟨other, List.mem_cons_of_mem _ hmem, e, he⟩

theorem CompileTo.attempts_eq {patterns : List CompiledPattern}
    (h : CompileTo registry maxDepth definitions patterns) :
    attempts registry maxDepth definitions = patterns.map .ok := by
  unfold attempts
  generalize 0 = start
  induction h generalizing start with
  | nil => rfl
  | cons hfirst _ ih =>
      rw [List.zipIdx_cons, List.map_cons, ih]
      simp only [hfirst, Except.mapError, List.map_cons]

theorem CompileTo.filterMap_toOption {patterns : List CompiledPattern}
    (h : CompileTo registry maxDepth definitions patterns) :
    (attempts registry maxDepth definitions).filterMap Except.toOption = patterns := by
  rw [h.attempts_eq]
  simp [List.filterMap_map, Function.comp_def, Except.toOption]

theorem CompileTo.compileAll {patterns : List CompiledPattern}
    (h : CompileTo registry maxDepth definitions patterns) :
    (compileAll registry maxDepth definitions).value = .ok patterns := by
  have hnone : (attempts registry maxDepth definitions).filterMap failure? = [] := by
    rw [h.attempts_eq]
    simp [List.filterMap_map, Function.comp_def, failure?]
  simp only [PatternDefinition.compileAll, hnone, h.filterMap_toOption, List.isEmpty_nil, if_true]

theorem CompileTo.exists_definition {patterns : List CompiledPattern}
    (h : CompileTo registry maxDepth definitions patterns) {index : Nat}
    {pattern : CompiledPattern} (hpattern : patterns[index]? = some pattern) :
    ∃ definition, definitions[index]? = some definition ∧
      CompiledPattern.compile registry.lookup? maxDepth definition.pattern = .ok pattern := by
  induction h generalizing index with
  | nil => cases hpattern
  | cons hfirst _ ih =>
      cases index with
      | zero =>
          cases hpattern
          exact ⟨_, rfl, hfirst⟩
      | succ index => exact ih hpattern

/-! ## The outcome -/

/-- What compiling all definitions comes to, and what it adds to the metrics. -/
theorem compileAll_cases (registry : Registry) (maxDepth : Nat)
    (definitions : List PatternDefinition) :
    (failures registry maxDepth definitions ≠ [] ∧
      (compileAll registry maxDepth definitions).value =
        .error (failures registry maxDepth definitions) ∧
      (compileAll registry maxDepth definitions).metrics =
        (failures registry maxDepth definitions).map fun failure =>
          ⟨.compileErrors failure.cause.kind, 1⟩) ∨
    (failures registry maxDepth definitions = [] ∧
      ∃ patterns, CompileTo registry maxDepth definitions patterns ∧
        (compileAll registry maxDepth definitions).value = .ok patterns ∧
        (compileAll registry maxDepth definitions).metrics =
          [⟨.patternsCompiled, definitions.length⟩]) := by
  have hfailures := filterMap_attempts registry maxDepth definitions
  by_cases hnone : failures registry maxDepth definitions = []
  · rcases compileTo_or_exists_error registry maxDepth definitions with ⟨patterns, hall⟩ | hfails
    · refine .inr ⟨hnone, patterns, hall, hall.compileAll, ?_⟩
      simp only [compileAll, hfailures, hnone, List.isEmpty_nil, if_true, hall.filterMap_toOption,
        hall.length_eq]
    · exact absurd hnone (failures_ne_nil_iff.2 hfails)
  · have hsome : (failures registry maxDepth definitions).isEmpty = false := by
      simpa using hnone
    refine .inl ⟨hnone, ?_, ?_⟩
    · simp only [compileAll, hfailures, hsome, Bool.false_eq_true, if_false]
    · simp only [compileAll, hfailures, hsome, Bool.false_eq_true, if_false]

theorem value_compileAll_eq_error_iff {found : List CompileFailure} :
    (compileAll registry maxDepth definitions).value = .error found ↔
      found = failures registry maxDepth definitions ∧ found ≠ [] := by
  rcases compileAll_cases registry maxDepth definitions with
    ⟨hsome, hvalue, -⟩ | ⟨hnone, patterns, -, hvalue, -⟩
  · rw [hvalue, Except.error.injEq]
    constructor
    · intro hfound
      exact ⟨hfound.symm, hfound ▸ hsome⟩
    · intro hfound
      exact hfound.1.symm
  · rw [hvalue, hnone]
    constructor
    · intro hfound
      cases hfound
    · intro hfound
      exact absurd hfound.1 hfound.2

theorem value_compileAll_eq_ok_iff {patterns : List CompiledPattern} :
    (compileAll registry maxDepth definitions).value = .ok patterns ↔
      CompileTo registry maxDepth definitions patterns := by
  constructor
  · intro hpatterns
    rcases compileAll_cases registry maxDepth definitions with
      ⟨_, hvalue, -⟩ | ⟨_, others, hall, hvalue, -⟩
    · rw [hvalue] at hpatterns
      cases hpatterns
    · rw [hvalue] at hpatterns
      cases hpatterns
      exact hall
  · exact CompileTo.compileAll

end LogPattern.PatternDefinition
