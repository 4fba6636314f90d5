import LogPattern.CodePoint.WhiteSpace
import LogPattern.EngineError
import LogPattern.LogEvent
import LogPattern.Pattern.Token
import LogPattern.Settings.Basic

/-!
# Rules for settings

Settings are checked twice: all of them when they are loaded, and those of the
engine when an engine is made of them.  The first broken rule is reported.
-/

namespace LogPattern

inductive SettingsError where
  | fileNotFound (path : String)
  /-- The text of the settings says nothing that can be understood. -/
  | malformed
  | invalidValue (field reason : String)
  | unreadable (fault : FileFault)
deriving DecidableEq, Repr

namespace SettingsError

/--
What is said about the settings, apart from the reading of their file.  The TOML parser's
own words, which would follow for a malformed text, are not modelled.
-/
def detail : SettingsError → String
  | fileNotFound path => "config file not found: " ++ path
  | malformed => "failed to parse config: "
  | invalidValue field reason => "invalid config value for '" ++ field ++ "': " ++ reason
  | unreadable fault => fault.message

def message (e : SettingsError) : String :=
  match e with
  | unreadable _ => "io error: " ++ e.detail
  | _ => "config error: " ++ e.detail

def kind : SettingsError → String
  | fileNotFound _ => "Config.FileNotFound"
  | malformed => "Config.ParseFailed"
  | invalidValue _ _ => "Config.InvalidValue"
  | unreadable _ => "Io"

end SettingsError

def maxRecursionDepthLimit : Nat := 1000

def maxWorkerThreads : Nat := 256

namespace GeneralSettings

def formats : List String := ["json", "pretty"]

end GeneralSettings

/-- A condition on a setting, with what is said if it does not hold. -/
structure SettingRule where
  holds : Bool
  field : String
  reason : String

namespace SettingRule

def firstBroken? (rules : List SettingRule) : Option SettingRule := rules.find? (!·.holds)

def oneOf (field value : String) (values : List String) : SettingRule :=
  ⟨values.contains value, field, "must be one of: " ++ ", ".intercalate values⟩

def depth (field : String) (value : Nat) : SettingRule :=
  ⟨0 < value && value ≤ maxRecursionDepthLimit, field, s!"must be 1-{maxRecursionDepthLimit}"⟩

def positive (field : String) (value : Nat) : SettingRule :=
  ⟨0 < value, field, "must be greater than 0"⟩

def patternName (table name reason : String) : SettingRule :=
  ⟨isPatternName name, table ++ "." ++ name, reason⟩

end SettingRule

namespace Settings

/-- The rules that hold for settings when they are loaded, in the order of checking. -/
def rules (settings : Settings) : List SettingRule :=
  [.oneOf "general.log_level" settings.general.logLevel (LogLevel.all.map (·.name)),
    .oneOf "general.log_format" settings.general.logFormat GeneralSettings.formats,
    .depth "engine.max_recursion_depth" settings.engine.maxRecursionDepth,
    .positive "engine.max_lines" settings.engine.maxLines] ++
  settings.engine.customPatterns.keys.map fun name =>
    .patternName "engine.custom_patterns" name
      "pattern name must be non-empty and contain only [A-Za-z0-9_]"

def check (settings : Settings) : Except SettingsError Unit :=
  match SettingRule.firstBroken? settings.rules with
  | none => .ok ()
  | some rule => .error (.invalidValue rule.field rule.reason)

end Settings

namespace EngineSettings

def rules (settings : EngineSettings) : List SettingRule :=
  [.depth "max_recursion_depth" settings.maxRecursionDepth,
    ⟨settings.workerThreads ≤ maxWorkerThreads, "worker_threads",
      s!"must be 0-{maxWorkerThreads}"⟩,
    .positive "max_lines" settings.maxLines] ++
  settings.patternDirs.map (fun directory =>
    ⟨!isBlank directory, "pattern_dirs", "pattern directory must not be empty"⟩) ++
  settings.customPatterns.keys.map fun name =>
    .patternName "custom_patterns" name "pattern name must contain only [A-Za-z0-9_]"

def check (settings : EngineSettings) : Except EngineError Unit :=
  match SettingRule.firstBroken? settings.rules with
  | none => .ok ()
  | some rule => .error (.config rule.field rule.reason)

end EngineSettings

end LogPattern
