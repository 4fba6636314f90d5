import Std.Data.TreeMap

/-!
# Settings

What can be set about the program: how it reports, and how it compiles and
validates.  Every setting has a value that it takes unless it is set.
-/

namespace LogPattern

def maxSize : Nat := Nat.pow 2 64 - 1

structure GeneralSettings where
  logLevel : String
  logFormat : String
deriving DecidableEq, Repr

namespace GeneralSettings

def default : GeneralSettings := ⟨"info", "pretty"⟩

end GeneralSettings

structure EngineSettings where
  /-- The number of references on the way to a fragment. -/
  maxRecursionDepth : Nat
  /-- The number of workers; zero leaves it to the machine. -/
  workerThreads : Nat
  parallelThreshold : Nat
  maxLines : Nat
  patternDirs : List String
  customPatterns : Std.TreeMap String String

namespace EngineSettings

def default : EngineSettings := ⟨50, 0, 256, 100000, [], ∅⟩

/-- The number of workers, given how many the machine runs well. -/
def workers (settings : EngineSettings) (available : Nat) : Nat :=
  if settings.workerThreads > 0 then settings.workerThreads else available

def addDirectory (settings : EngineSettings) (directory : String) : EngineSettings :=
  { settings with patternDirs := settings.patternDirs ++ [directory] }

def addPattern (settings : EngineSettings) (name fragment : String) : EngineSettings :=
  { settings with customPatterns := settings.customPatterns.insert name fragment }

end EngineSettings

structure Settings where
  general : GeneralSettings
  engine : EngineSettings

namespace Settings

def default : Settings := ⟨.default, .default⟩

end Settings

end LogPattern
