import LogPattern.Registry.Directory
import LogPattern.Settings.Basic

/-!
# The registry that settings describe

First come the patterns of the standard library, then those of the directories in
order, then the patterns of the settings themselves.  A later pattern takes the
place of an earlier one with its name.
-/

namespace LogPattern

namespace EngineSettings

/-- The patterns of the settings themselves, in the order of their names. -/
def patterns (settings : EngineSettings) : List NamedFragment :=
  settings.customPatterns.toList.map fun entry => ⟨entry.1, entry.2⟩

end EngineSettings

namespace Registry

def overwrittenEvent (fragment : String) : LogEvent :=
  ⟨.trace, "pattern definition overwritten", [("fragment", .text fragment)]⟩

/-- Register fragments in order, and report those that were overwritten. -/
def registerLogged (registry : Registry) (patterns : List NamedFragment) :
    Logged (Except EngineError Registry) :=
  let registration := registry.registerAll patterns
  ⟨match registration.refusal with
    | none => .ok registration.registry
    | some e => .error e,
    registration.overwritten.map overwrittenEvent⟩

def addDirectories (tree : FileTree) :
    List String → Registry → Logged (Except EngineError Registry)
  | [], registry => ⟨.ok registry, []⟩
  | directory :: rest, registry =>
      let loaded := loadPatternDirectory tree directory
      match loaded.value with
      | .error e => ⟨.error e, loaded.events⟩
      | .ok patterns =>
          let registered := registry.registerLogged patterns
          match registered.value with
          | .error e => ⟨.error e, loaded.events ++ registered.events⟩
          | .ok registry =>
              let added := addDirectories tree rest registry
              ⟨added.value, loaded.events ++ registered.events ++ added.events⟩

def initializedEvent (registry : Registry) : LogEvent :=
  ⟨.debug, "pattern registry initialized", [("patterns", .number registry.size)]⟩

def ofCustomPatterns (settings : EngineSettings) : Logged (Except EngineError Registry) :=
  builtins.registerLogged settings.patterns

def ofSettings (tree : FileTree) (settings : EngineSettings) :
    Logged (Except EngineError Registry) :=
  let added := addDirectories tree settings.patternDirs builtins
  match added.value with
  | .error e => ⟨.error e, added.events⟩
  | .ok registry =>
      let registered := registry.registerLogged settings.patterns
      match registered.value with
      | .error e => ⟨.error e, added.events ++ registered.events⟩
      | .ok registry =>
          ⟨.ok registry, added.events ++ registered.events ++ [registry.initializedEvent]⟩

end Registry

end LogPattern
