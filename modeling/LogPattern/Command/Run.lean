import LogPattern.Command.Logging
import LogPattern.Command.Validate
import LogPattern.Report.Pattern
import LogPattern.Report.Settings

/-!
# Running commands

Settings are read before anything else, so that logging can start as they say; what
is wrong with them stops only the commands that need them.
-/

namespace LogPattern

namespace Surroundings

def registryEvent (registry : Registry) : LogEvent :=
  ⟨.info, "pattern registry loaded", [("patterns", .number registry.size)]⟩

/-- Go on with the registry that settings describe, and with the depth of references. -/
def withRegistry (around : Surroundings) (settings : EngineSettings)
    (next : Registry → Transcript) : Transcript :=
  .proceed (engineSettings settings []) fun settings =>
    .proceedLogged (around.registry settings) fun registry =>
      .after [registryEvent registry] (next registry)

def showPattern (registry : Registry) (maxDepth : Nat) (name : String) : Transcript :=
  match registry.lookup? name with
  | none => .failing (.refused (Registry.unknownMessage name))
  | some fragment =>
      match CompiledPattern.compile registry.lookup? maxDepth ("%\x7b" ++ name ++ "\x7d") with
      | .error e => .failing (.engine (.compile name e))
      | .ok compiled =>
          .after [compiled.event]
            (.reporting (PatternDetail.mk ⟨name, fragment⟩ compiled).report none)

def checkEvent (path : String) : LogEvent :=
  ⟨.info, "validating configuration", [("path", .text path)]⟩

def checkSettings (around : Surroundings) (path : String) : Transcript :=
  let loaded := Settings.load around.files around.environment path
  let verdict : SettingsVerdict :=
    ⟨path, match loaded.value with | .ok _ => none | .error e => some e⟩
  .after (checkEvent path :: loaded.events)
    (.reporting verdict.report
      (if verdict.isValid then none else some (.settings "configuration is invalid")))

def showEvent (path : String) : LogEvent :=
  ⟨.info, "loading configuration", [("path", .text path)]⟩

def unknownSection (name : String) : String :=
  "unknown section '" ++ name ++ "', expected one of: " ++
    ", ".intercalate (SettingsSection.all.map (·.name))

def sectionNamed : Option String → Except CommandError (Option SettingsSection)
  | none => .ok none
  | some name =>
      match SettingsSection.ofName? name with
      | some part => .ok (some part)
      | none => .error (.refused (unknownSection name))

def needed (loaded : Except SettingsError Settings) : Except CommandError Settings :=
  loaded.mapError .ofSettingsError

def showSettings (around : Surroundings) (path : String) (sectionName? : Option String) :
    Transcript :=
  let loaded := Settings.loadOrDefault around.files around.environment path
  .after (showEvent path :: loaded.events) <| .proceed (needed loaded.value) fun settings =>
    .proceed (sectionNamed sectionName?) fun part? =>
      .reporting (SettingsView.mk path part? settings).report none

/-- Do a task.  `loaded` are the settings, or why there are none. -/
def perform (around : Surroundings) (path : String) (loaded : Except SettingsError Settings) :
    Task → Transcript
  | .checkSettings => around.checkSettings path
  | .showSettings sectionName? => around.showSettings path sectionName?
  | .showFilter patterns => .reporting (FilterBlock.report patterns) none
  | .validateBatch sources directories =>
      .proceed (needed loaded) fun settings =>
        around.withEngine settings.engine directories (around.validateBatch · sources)
  | .answerRequest request directories =>
      .proceed (needed loaded) fun settings =>
        around.withEngine settings.engine directories (around.answerRequest · request)
  | .listPatterns part? =>
      .proceed (needed loaded) fun settings =>
        around.withRegistry settings.engine fun registry =>
          .reporting (PatternList.ofRegistry registry part?).report none
  | .showPattern name =>
      .proceed (needed loaded) fun settings =>
        around.withRegistry settings.engine fun registry =>
          showPattern registry settings.engine.maxRecursionDepth name

end Surroundings

structure Run where
  transcript : Transcript
  logging? : Option Logging

namespace Run

def startEvent (path : String) : LogEvent :=
  ⟨.debug, "grokline starting", [("config", .text path)]⟩

def generalSettings (loaded : Except SettingsError Settings) (logLevel? : Option String) :
    GeneralSettings :=
  let general := match loaded with
    | .ok settings => settings.general
    | .error _ => .default
  { general with logLevel := logLevel?.getD general.logLevel }

def ofInvocation (around : Surroundings) (invocation : Invocation) : Run :=
  let path := invocation.settingsPath
  let loaded := (Settings.loadOrDefault around.files around.environment path).value
  match Logging.start false (generalSettings loaded invocation.logLevel?) with
  | .error e => ⟨.failing e, none⟩
  | .ok logging =>
      ⟨.after [startEvent path] (around.perform path loaded invocation.task), some logging⟩

def recorded (run : Run) : List LogEvent :=
  match run.logging? with
  | some logging => logging.filter.keep run.transcript.events
  | none => []

def records (run : Run) : String :=
  match run.logging? with
  | some logging => linesText (run.recorded.map (·.record logging.format))
  | none => ""

end Run

end LogPattern
