import LogPattern.Command.Run
import LogPattern.Proofs.Registry.Views

/-!
# Two checks of settings

Settings are checked when they are loaded, and those of an engine once more when an engine
is made of them.  The second check has two rules that the first one lacks: one on the
number of workers, and one on the names of directories.  Settings that have been loaded
can fail for these two only, and then every command that needs an engine fails so.
-/

namespace LogPattern

/-! ## Rules -/

namespace SettingRule

theorem firstBroken?_eq_none_iff {rules : List SettingRule} :
    firstBroken? rules = none ↔ ∀ rule ∈ rules, rule.holds = true := by
  simp [firstBroken?, List.find?_eq_none]

theorem firstBroken?_append (front back : List SettingRule) :
    firstBroken? (front ++ back) = (firstBroken? front).or (firstBroken? back) :=
  List.find?_append

theorem firstBroken?_cons (rule : SettingRule) (rules : List SettingRule) :
    firstBroken? (rule :: rules) = if rule.holds then firstBroken? rules else some rule := by
  rw [firstBroken?, List.find?_cons]
  cases rule.holds <;> rfl

/-- Where many values have to keep one rule, it is reported once, whichever breaks it. -/
theorem firstBroken?_map {α : Type} (breaks : α → Bool) (field reason : String)
    (values : List α) :
    firstBroken? (values.map fun value => ⟨!breaks value, field, reason⟩) =
      if values.any breaks then some ⟨false, field, reason⟩ else none := by
  induction values with
  | nil => rfl
  | cons value values ih =>
      rw [List.map_cons, firstBroken?_cons, ih, List.any_cons]
      cases breaks value <;> simp

end SettingRule

namespace Settings

variable {settings : Settings}

theorem holds_of_check (h : settings.check = .ok ()) {rule : SettingRule}
    (hrule : rule ∈ settings.rules) : rule.holds = true := by
  unfold check at h
  split at h
  · next hnone => exact SettingRule.firstBroken?_eq_none_iff.1 hnone rule hrule
  · cases h

theorem engine_check_eq (h : settings.check = .ok ()) :
    settings.engine.check =
      if maxWorkerThreads < settings.engine.workerThreads then
        .error (.config "worker_threads" s!"must be 0-{maxWorkerThreads}")
      else if settings.engine.patternDirs.any isBlank then
        .error (.config "pattern_dirs" "pattern directory must not be empty")
      else .ok () := by
  -- the two checks name a setting differently, but ask the same of its value
  have hdepth (field : String) :
      (SettingRule.depth field settings.engine.maxRecursionDepth).holds = true := by
    have hrule : SettingRule.depth "engine.max_recursion_depth"
        settings.engine.maxRecursionDepth ∈ settings.rules := by simp [rules]
    have hholds := holds_of_check h hrule
    exact hholds
  have hlines (field : String) :
      (SettingRule.positive field settings.engine.maxLines).holds = true := by
    have hrule : SettingRule.positive "engine.max_lines" settings.engine.maxLines ∈
        settings.rules := by simp [rules]
    have hholds := holds_of_check h hrule
    exact hholds
  have hnames : SettingRule.firstBroken? (settings.engine.customPatterns.keys.map fun name =>
      .patternName "custom_patterns" name
        "pattern name must contain only [A-Za-z0-9_]") = none := by
    refine SettingRule.firstBroken?_eq_none_iff.2 fun rule hrule => ?_
    obtain ⟨name, hname, rfl⟩ := List.mem_map.1 hrule
    have hloaded : SettingRule.patternName "engine.custom_patterns" name
        "pattern name must be non-empty and contain only [A-Za-z0-9_]" ∈ settings.rules :=
      List.mem_append_right _ (List.mem_map.2 ⟨name, hname, rfl⟩)
    have hholds := holds_of_check h hloaded
    exact hholds
  have hdirectories := SettingRule.firstBroken?_map isBlank "pattern_dirs"
    "pattern directory must not be empty" settings.engine.patternDirs
  unfold EngineSettings.check EngineSettings.rules
  rw [SettingRule.firstBroken?_append, SettingRule.firstBroken?_append, hnames, hdirectories,
    Option.or_none, SettingRule.firstBroken?_cons, hdepth, if_pos rfl,
    SettingRule.firstBroken?_cons]
  by_cases hworkers : maxWorkerThreads < settings.engine.workerThreads
  · have hbroken : decide (settings.engine.workerThreads ≤ maxWorkerThreads) = false := by
      simpa using hworkers
    simp only [hbroken, hworkers, Bool.false_eq_true, if_true, if_false, Option.some_or]
  · have hkept : decide (settings.engine.workerThreads ≤ maxWorkerThreads) = true := by
      simpa using hworkers
    rw [SettingRule.firstBroken?_cons, hlines]
    simp only [hkept, hworkers, if_true, if_false]
    cases settings.engine.patternDirs.any isBlank <;> rfl

end Settings

/-! ## Failures -/

def EngineError.IsConfig (e : EngineError) : Prop := ∃ field reason, e = .config field reason

def Transcript.BlamesSettings (transcript : Transcript) : Prop :=
  ∃ e : EngineError, e.IsConfig ∧ transcript.error? = some (.engine e)

namespace Transcript

variable {α : Type} {next : α → Transcript}

theorem not_blamesSettings_failing {e : CommandError} (h : ∀ cause, e ≠ .engine cause) :
    ¬ (failing e).BlamesSettings := by
  rintro ⟨cause, -, herror⟩
  exact h cause (Option.some.inj herror)

theorem blamesSettings_after {events : List LogEvent} {transcript : Transcript} :
    (after events transcript).BlamesSettings ↔ transcript.BlamesSettings :=
  Iff.rfl

/-- A command does not blame the settings if neither its step nor what follows does. -/
theorem not_blamesSettings_proceed {step : Except CommandError α}
    (hstep : ∀ e, step = .error (.engine e) → ¬ e.IsConfig)
    (hnext : ∀ value, step = .ok value → ¬ (next value).BlamesSettings) :
    ¬ (proceed step next).BlamesSettings := by
  cases step with
  | ok value => exact hnext value rfl
  | error e =>
      rintro ⟨cause, hconfig, herror⟩
      obtain rfl : e = .engine cause := Option.some.inj herror
      exact hstep cause rfl hconfig

theorem not_blamesSettings_proceedLogged {step : Logged (Except CommandError α)}
    (hstep : ∀ e, step.value = .error (.engine e) → ¬ e.IsConfig)
    (hnext : ∀ value, step.value = .ok value → ¬ (next value).BlamesSettings) :
    ¬ (proceedLogged step next).BlamesSettings :=
  not_blamesSettings_proceed hstep hnext

theorem not_blamesSettings_reporting {report : Report} {error? : Option CommandError}
    (h : ∀ e, error? ≠ some (.engine e)) : ¬ (reporting report error?).BlamesSettings := by
  rintro ⟨cause, -, herror⟩
  exact h cause herror

end Transcript

/-! ## Registries -/

namespace Registry

variable {tree : FileTree} {e : EngineError}

theorem not_isConfig_of_loadPatternFiles {directory : String} {load : DirectoryLoad}
    {paths : List String} (h : (loadPatternFiles tree directory load paths).value = .error e) :
    ¬ e.IsConfig := by
  induction paths generalizing load with
  | nil => cases h
  | cons path paths ih =>
      rw [loadPatternFiles] at h
      split at h
      all_goals
        split at h
        · cases h
          exact nofun
        · exact ih h

theorem not_isConfig_of_loadPatternDirectory {directory : String}
    (h : (loadPatternDirectory tree directory).value = .error e) : ¬ e.IsConfig := by
  unfold loadPatternDirectory at h
  split at h
  · cases h
    exact nofun
  · cases h
    exact nofun
  · dsimp only at h
    split at h
    · next hfiles =>
        cases h
        exact not_isConfig_of_loadPatternFiles hfiles
    · cases h

theorem not_isConfig_of_registerLogged {registry : Registry} {patterns : List NamedFragment}
    (h : (registry.registerLogged patterns).value = .error e) : ¬ e.IsConfig := by
  have hrefusal : (registry.registerAll patterns).refusal = some e := by
    unfold registerLogged at h
    dsimp only at h
    split at h
    · cases h
    · next hsome =>
        cases h
        exact hsome
  rw [(registry.registerAll_eq patterns).2, Option.map_eq_some_iff] at hrefusal
  obtain ⟨pattern, -, rfl⟩ := hrefusal
  exact nofun

theorem not_isConfig_of_addDirectories {directories : List String} {registry : Registry}
    (h : (addDirectories tree directories registry).value = .error e) : ¬ e.IsConfig := by
  induction directories generalizing registry with
  | nil => cases h
  | cons directory directories ih =>
      rw [addDirectories] at h
      dsimp only at h
      split at h
      · next hloaded =>
          cases h
          exact not_isConfig_of_loadPatternDirectory hloaded
      · split at h
        · next hregistered =>
            cases h
            exact not_isConfig_of_registerLogged hregistered
        · exact ih h

theorem not_isConfig_of_ofSettings {settings : EngineSettings}
    (h : (ofSettings tree settings).value = .error e) : ¬ e.IsConfig := by
  unfold ofSettings at h
  dsimp only at h
  split at h
  · next hadded =>
      cases h
      exact not_isConfig_of_addDirectories hadded
  · split at h
    · next hregistered =>
        cases h
        exact not_isConfig_of_registerLogged hregistered
    · cases h

end Registry

/-! ## Commands -/

namespace Surroundings

open Transcript

variable {around : Surroundings} {settings : EngineSettings}

theorem not_isConfig_of_registry {e : EngineError}
    (h : (around.registry settings).value = .error (.engine e)) : ¬ e.IsConfig := by
  unfold registry at h
  dsimp only at h
  cases hmade : (Registry.ofSettings around.files settings).value with
  | ok made =>
      rw [hmade] at h
      cases h
  | error e' =>
      rw [hmade] at h
      cases h
      exact Registry.not_isConfig_of_ofSettings hmade

theorem not_blamesSettings_withEngine {next : Engine → Transcript}
    (hcheck : settings.check = .ok ())
    (hnext : ∀ engine : Engine, ¬ (next engine).BlamesSettings) :
    ¬ (around.withEngine settings [] next).BlamesSettings := by
  have hsettings : engineSettings settings [] = .ok settings := by
    simp only [engineSettings, List.foldl_nil, hcheck]
  rw [withEngine, hsettings]
  refine not_blamesSettings_proceedLogged (fun _ h => not_isConfig_of_registry h)
    fun registry _ => ?_
  have hengine : around.engine registry settings =
      .ok ⟨registry, settings, around.availableWorkers⟩ := by
    simp only [engine, Engine.ofRegistry, hcheck]
    rfl
  rw [hengine]
  exact hnext _

theorem not_blamesSettings_withRegistry {next : Registry → Transcript}
    (hcheck : settings.check = .ok ())
    (hnext : ∀ registry : Registry, ¬ (next registry).BlamesSettings) :
    ¬ (around.withRegistry settings next).BlamesSettings := by
  have hsettings : engineSettings settings [] = .ok settings := by
    simp only [engineSettings, List.foldl_nil, hcheck]
  rw [withRegistry, hsettings]
  exact not_blamesSettings_proceedLogged (fun _ h => not_isConfig_of_registry h)
    fun registry _ => hnext registry

theorem not_blamesSettings_showPattern (registry : Registry) (maxDepth : Nat) (name : String) :
    ¬ (showPattern registry maxDepth name).BlamesSettings := by
  unfold showPattern
  split
  · exact not_blamesSettings_failing nofun
  · split
    · rintro ⟨cause, ⟨field, reason, rfl⟩, herror⟩
      cases herror
    · exact blamesSettings_after.not.2 (not_blamesSettings_reporting nofun)

theorem not_blamesSettings_reportOutcome {outcome : ValidationOutcome} {patternNames : List String}
    {failure : String → CommandError} (h : ∀ reason e, failure reason ≠ .engine e) :
    ¬ (reportOutcome outcome patternNames failure).BlamesSettings := by
  refine not_blamesSettings_reporting fun e herror => ?_
  split at herror
  · cases herror
  · obtain ⟨reason, -, hreason⟩ := Option.map_eq_some_iff.1 herror
    exact h reason e hreason

theorem not_engine_of_readFile {path : String} {e : EngineError} :
    around.readFile path ≠ .error (.engine e) := by
  unfold readFile
  cases around.files.readText path <;> nofun

theorem not_blamesSettings_answerRequest (engine : Engine) (path : String) :
    ¬ (around.answerRequest engine path).BlamesSettings := by
  unfold answerRequest
  rw [blamesSettings_after]
  refine not_blamesSettings_proceed (fun e hread => ?_) fun request _ => ?_
  · unfold readRequest at hread
    split at hread
    · next hfile =>
        cases hread
        exact absurd hfile not_engine_of_readFile
    · split at hread
      · cases hread
      · cases hread
  · exact blamesSettings_after.not.2 (not_blamesSettings_reportOutcome nofun)

theorem eq_cancelled_of_validateAmid {engine : Engine} {mishaps : Mishaps} {lines : List String}
    {definitions : List PatternDefinition} {e : EngineError}
    (h : (engine.validateAmid mishaps lines definitions).value = .error e) : e = .cancelled := by
  unfold Engine.validateAmid Engine.validateBy at h
  dsimp only at h
  split at h
  · cases h
  · split at h
    · cases h
      rfl
    · cases h

theorem not_blamesSettings_validateLines (engine : Engine) (lines : List String)
    (definitions : List PatternDefinition) :
    ¬ (around.validateLines engine lines definitions).BlamesSettings := by
  unfold validateLines
  dsimp only
  rw [blamesSettings_after]
  split
  · exact not_blamesSettings_reportOutcome nofun
  · next hvalue =>
      obtain rfl := eq_cancelled_of_validateAmid hvalue
      rintro ⟨cause, ⟨field, reason, rfl⟩, herror⟩
      cases herror

theorem exists_patternLoad_of_ofFile {tree : FileTree} {path : String} {e : EngineError}
    (h : PatternDefinition.ofFile tree path = .error e) :
    ∃ problem, e = .patternLoad path problem := by
  unfold PatternDefinition.ofFile at h
  split at h
  · cases h
    exact ⟨_, rfl⟩
  · split at h
    · cases h
      exact ⟨_, rfl⟩
    · split at h
      · cases h
        exact ⟨_, rfl⟩
      · unfold PatternDefinition.ofSource? at h
        cases htext : PatternDefinition.ofText? _ with
        | ok definitions =>
            rw [htext] at h
            cases h
        | error problem =>
            rw [htext] at h
            cases h
            exact ⟨problem, rfl⟩

theorem not_isConfig_of_gatherDefinitions {sources : BatchSources} {e : EngineError}
    (h : (around.gatherDefinitions sources).value = .error (.engine e)) : ¬ e.IsConfig := by
  unfold gatherDefinitions at h
  dsimp only at h
  split at h
  · cases h
  · split at h
    · next hfile =>
        cases h
        obtain ⟨problem, rfl⟩ := exists_patternLoad_of_ofFile hfile
        exact nofun
    · cases h

theorem not_engine_of_gatherLines {sources : BatchSources} {e : EngineError} :
    around.gatherLines sources ≠ .error (.engine e) := by
  intro h
  unfold gatherLines at h
  split at h
  · next path _ =>
      cases hread : around.readFile path with
      | ok text =>
          rw [hread] at h
          cases h
      | error cause =>
          rw [hread] at h
          cases h
          exact not_engine_of_readFile hread
  · unfold readInput at h
    split at h <;> cases h

theorem not_engine_of_checkDefinitions {definitions : List PatternDefinition} {e : EngineError} :
    checkDefinitions definitions ≠ .error (.engine e) := by
  unfold checkDefinitions
  split <;> exact nofun

theorem not_engine_of_checkLines {lines : List String} {limit : Nat} {e : EngineError} :
    checkLines lines limit ≠ .error (.engine e) := by
  unfold checkLines
  split
  · exact nofun
  · split <;> exact nofun

theorem not_blamesSettings_validateBatch (engine : Engine) (sources : BatchSources) :
    ¬ (around.validateBatch engine sources).BlamesSettings := by
  unfold validateBatch
  refine not_blamesSettings_proceedLogged (fun _ h => not_isConfig_of_gatherDefinitions h)
    fun definitions _ => ?_
  refine not_blamesSettings_proceed (fun _ h => absurd h not_engine_of_checkDefinitions)
    fun _ _ => ?_
  refine not_blamesSettings_proceed (fun _ h => absurd h not_engine_of_gatherLines)
    fun lines _ => ?_
  refine not_blamesSettings_proceed (fun _ h => absurd h not_engine_of_checkLines) fun _ _ => ?_
  exact blamesSettings_after.not.2 (not_blamesSettings_validateLines engine lines definitions)

end Surroundings

/-- The tasks that make an engine, or its registry, of the settings as they are. -/
def Task.usesSettings : Task → Bool
  | .validateBatch _ directories | .answerRequest _ directories => directories.isEmpty
  | .listPatterns _ | .showPattern _ => true
  | .showFilter _ | .checkSettings | .showSettings _ => false

namespace Surroundings

variable {around : Surroundings} {settings : Settings} {task : Task}

/-- With settings that an engine accepts, no task fails for them. -/
theorem not_blamesSettings_perform (hcheck : settings.engine.check = .ok ())
    (htask : task.usesSettings = true) (path : String) :
    ¬ (around.perform path (.ok settings) task).BlamesSettings := by
  cases task with
  | validateBatch sources directories =>
      obtain rfl : directories = [] := List.isEmpty_iff.1 htask
      exact not_blamesSettings_withEngine hcheck fun engine =>
        not_blamesSettings_validateBatch engine sources
  | answerRequest request directories =>
      obtain rfl : directories = [] := List.isEmpty_iff.1 htask
      exact not_blamesSettings_withEngine hcheck fun engine =>
        not_blamesSettings_answerRequest engine request
  | listPatterns part? =>
      exact not_blamesSettings_withRegistry hcheck fun registry =>
        Transcript.not_blamesSettings_reporting nofun
  | showPattern name =>
      exact not_blamesSettings_withRegistry hcheck fun registry =>
        not_blamesSettings_showPattern registry _ name
  | showFilter patterns => cases htask
  | checkSettings => cases htask
  | showSettings sectionName? => cases htask

theorem perform_error_eq {e : EngineError} (hcheck : settings.engine.check = .error e)
    (htask : task.usesSettings = true) (path : String) :
    (around.perform path (.ok settings) task).error? = some (.engine e) := by
  have hsettings : engineSettings settings.engine [] = .error (.engine e) := by
    simp only [engineSettings, List.foldl_nil, hcheck]
  have hengine (next : Engine → Transcript) :
      (around.withEngine settings.engine [] next).error? = some (.engine e) := by
    rw [withEngine, hsettings]
    rfl
  have hregistry (next : Registry → Transcript) :
      (around.withRegistry settings.engine next).error? = some (.engine e) := by
    rw [withRegistry, hsettings]
    rfl
  cases task with
  | validateBatch sources directories =>
      obtain rfl : directories = [] := List.isEmpty_iff.1 htask
      exact hengine _
  | answerRequest request directories =>
      obtain rfl : directories = [] := List.isEmpty_iff.1 htask
      exact hengine _
  | listPatterns part? => exact hregistry _
  | showPattern name => exact hregistry _
  | showFilter patterns => cases htask
  | checkSettings => cases htask
  | showSettings sectionName? => cases htask

end Surroundings

/-! ## Agreement -/

namespace Settings

/-- Settings that have been loaded are refused by an engine for its workers or for a
directory without a name, in this order, and for nothing else.  The tasks that use them as
they are fail for them exactly if an engine refuses them, and then say what it says. -/
theorem engine_check_of_check (settings : Settings) (h : settings.check = .ok ()) :
    (settings.engine.check =
      if maxWorkerThreads < settings.engine.workerThreads then
        .error (.config "worker_threads" s!"must be 0-{maxWorkerThreads}")
      else if settings.engine.patternDirs.any isBlank then
        .error (.config "pattern_dirs" "pattern directory must not be empty")
      else .ok ()) ∧
    (settings.engine.check = .ok () ↔
      settings.engine.workerThreads ≤ maxWorkerThreads ∧
        ∀ directory ∈ settings.engine.patternDirs, isBlank directory = false) ∧
    ∀ (around : Surroundings) (path : String) (task : Task), task.usesSettings = true →
      (settings.engine.check = .ok () →
        ∀ field reason, (around.perform path (.ok settings) task).error? ≠
          some (.engine (.config field reason))) ∧
      ∀ e, settings.engine.check = .error e →
        (around.perform path (.ok settings) task).error? = some (.engine e) := by
  have hcheck := engine_check_eq h
  refine ⟨hcheck, ?_, fun around path task htask => ⟨fun hok field reason herror => ?_,
    fun e hrefused => around.perform_error_eq hrefused htask path⟩⟩
  · rw [hcheck]
    constructor
    · intro hok
      split_ifs at hok with hworkers hblank
      refine ⟨Nat.le_of_not_lt hworkers, fun directory hdirectory => ?_⟩
      simpa using fun hdir => hblank (List.any_eq_true.2 ⟨directory, hdirectory, hdir⟩)
    · rintro ⟨hworkers, hdirectories⟩
      have hnamed : ¬ settings.engine.patternDirs.any isBlank = true := by
        simpa using hdirectories
      rw [if_neg (Nat.not_lt.2 hworkers), if_neg hnamed]
  · exact Surroundings.not_blamesSettings_perform hok htask path
      ⟨.config field reason, ⟨field, reason, rfl⟩, herror⟩

/-- The usual settings, but with as many workers as an engine takes, and with more patterns. -/
def fullyStaffed : Settings :=
  { Settings.default with
    engine := { EngineSettings.default with
      workerThreads := 256
      patternDirs := ["/etc/patterns", "patterns"]
      customPatterns := .ofList [("TICKET", "[A-Z]+-%\x7bINT\x7d")] } }

theorem engine_check_of_check_fullyStaffed :
    (Settings.default.check = .ok () ∧ Settings.default.engine.check = .ok ()) ∧
      fullyStaffed.check = .ok () ∧ fullyStaffed.engine.check = .ok () ∧
      Task.usesSettings (.showPattern "TICKET") = true ∧
      ∀ (around : Surroundings) (field reason : String),
        (around.perform usualPath (.ok fullyStaffed) (.showPattern "TICKET")).error? ≠
          some (.engine (.config field reason)) := by
  have hdefault : Settings.default.check = .ok () := rfl
  obtain ⟨-, hunchanged, -⟩ := engine_check_of_check Settings.default hdefault
  have hloaded : fullyStaffed.check = .ok () := rfl
  have htask : Task.usesSettings (.showPattern "TICKET") = true := rfl
  obtain ⟨-, haccepts, hperform⟩ := engine_check_of_check fullyStaffed hloaded
  have hengine : fullyStaffed.engine.check = .ok () :=
    haccepts.2 ⟨by decide, by decide +kernel⟩
  exact ⟨⟨hdefault, hunchanged.2 ⟨by decide, by decide⟩⟩, hloaded, hengine, htask, fun around =>
    (hperform around usualPath (.showPattern "TICKET") htask).1 hengine⟩

def overstaffed : Settings :=
  { Settings.default with engine := { EngineSettings.default with workerThreads := 257 } }

/-- Settings that are loaded without complaint, and that no command can use. -/
theorem overstaffed_check_ok_engine_refuses :
    overstaffed.check = .ok () ∧
      overstaffed.engine.check = .error (.config "worker_threads" "must be 0-256") ∧
      ∀ around : Surroundings,
        (around.perform usualPath (.ok overstaffed) (.listPatterns none)).error? =
          some (.engine (.config "worker_threads" "must be 0-256")) := by
  have hengine : overstaffed.engine.check = .error (.config "worker_threads" "must be 0-256") :=
    rfl
  exact ⟨rfl, hengine, fun around => around.perform_error_eq hengine rfl usualPath⟩

end Settings

end LogPattern
