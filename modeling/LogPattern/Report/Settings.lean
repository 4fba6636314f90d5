import LogPattern.Report.Basic
import LogPattern.Settings.Printer

/-!
# Reports on settings
-/

namespace LogPattern

structure SettingsVerdict where
  path : String
  error? : Option SettingsError

namespace SettingsVerdict

def errors (verdict : SettingsVerdict) : List String := verdict.error?.toList.map (·.message)

def isValid (verdict : SettingsVerdict) : Bool := verdict.error?.isNone

def report (verdict : SettingsVerdict) : Report :=
  ⟨linesText (((if verdict.isValid then "Valid: " else "Invalid: ") ++ verdict.path) ::
      verdict.errors.map ("  - " ++ ·)),
    .object [("source", .string verdict.path), ("valid", .bool verdict.isValid),
      ("errors", .array (verdict.errors.map .string))]⟩

end SettingsVerdict

structure SettingsView where
  path : String
  part? : Option SettingsSection
  settings : Settings

namespace SettingsView

def toml (view : SettingsView) : String :=
  match view.part? with
  | some part => part.toToml view.settings
  | none => view.settings.toToml

def heading (view : SettingsView) : String :=
  match view.part? with
  | some part => "# " ++ view.path ++ " [" ++ part.name ++ "]"
  | none => "# " ++ view.path

def report (view : SettingsView) : Report :=
  ⟨linesText [view.heading] ++ view.toml,
    .object [("source", .string view.path),
      ("section", Json.ofOption (view.part?.map (·.name))),
      ("config_toml", .string view.toml)]⟩

end SettingsView

end LogPattern
