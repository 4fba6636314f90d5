import LogPattern.Settings.Basic
import LogPattern.Toml.Printer

/-!
# Writing settings in TOML
-/

namespace LogPattern

open Toml

def GeneralSettings.toToml (settings : GeneralSettings) : String :=
  assignment "log_level" (quoted settings.logLevel) ++
    assignment "log_format" (quoted settings.logFormat)

def EngineSettings.toToml (settings : EngineSettings) (patternsHeader : String) : String :=
  assignment "max_recursion_depth" (toString settings.maxRecursionDepth) ++
    assignment "worker_threads" (toString settings.workerThreads) ++
    assignment "parallel_threshold" (toString settings.parallelThreshold) ++
    assignment "max_lines" (toString settings.maxLines) ++
    assignment "pattern_dirs" (quotedList settings.patternDirs) ++
    "\n" ++ patternsHeader ++ "\n" ++
    String.join (settings.customPatterns.toList.map fun (name, fragment) =>
      assignment name (quoted fragment))

def Settings.toToml (settings : Settings) : String :=
  "[general]\n" ++ settings.general.toToml ++ "\n[engine]\n" ++
    settings.engine.toToml "[engine.custom_patterns]"

inductive SettingsSection where
  | general
  | engine
deriving DecidableEq, Repr

namespace SettingsSection

def name : SettingsSection → String
  | general => "general"
  | engine => "engine"

def all : List SettingsSection := [general, engine]

def ofName? (name : String) : Option SettingsSection := all.find? (·.name = name)

def toToml (settings : Settings) : SettingsSection → String
  | general => settings.general.toToml
  | engine => settings.engine.toToml "[custom_patterns]"

end SettingsSection

end LogPattern
