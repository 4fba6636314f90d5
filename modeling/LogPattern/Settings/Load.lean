import LogPattern.Settings.Environment
import LogPattern.Settings.Reader
import LogPattern.Settings.Rules

/-!
# Loading settings

Settings come from a file and must be right as they stand there.  Then the
environment has its say, and they are checked again.  Where a file is not needed,
the usual settings take the place of a missing one.
-/

namespace LogPattern.Settings

def usualPath : String := "grokline.toml"

def parse (text : String) : Except SettingsError Settings :=
  match ofText? text with
  | some settings => .ok settings
  | none => .error .malformed

def checked (settings : Settings) : Except SettingsError Settings :=
  settings.check.map fun _ => settings

def ofFile (tree : FileTree) (path : String) : Except SettingsError Settings :=
  match tree.readText path with
  | .error .notFound => .error (.fileNotFound path)
  | .error fault => .error (.unreadable fault)
  | .ok text => (parse text).bind checked

def overridden (settings : Settings) (environment : Environment) :
    Logged (Except SettingsError Settings) :=
  ⟨(settings.override environment).checked, overrideWarnings environment⟩

def load (tree : FileTree) (environment : Environment) (path : String) :
    Logged (Except SettingsError Settings) :=
  match ofFile tree path with
  | .error e => ⟨.error e, []⟩
  | .ok settings => settings.overridden environment

def missingFile (path : String) : LogEvent :=
  ⟨.debug, "config file not found, using defaults", [("path", .text path)]⟩

def loadOrDefault (tree : FileTree) (environment : Environment) (path : String) :
    Logged (Except SettingsError Settings) :=
  let loaded := load tree environment path
  match loaded.value with
  | .error (.fileNotFound path) =>
      let defaults := Settings.default.overridden environment
      ⟨defaults.value, missingFile path :: defaults.events⟩
  | _ => loaded

end LogPattern.Settings
