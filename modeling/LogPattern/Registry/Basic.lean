import LogPattern.EngineError
import LogPattern.Pattern.Expansion
import LogPattern.Registry.Builtin
import Std.Data.TreeMap

/-!
# Pattern registries

A registry maps pattern names to fragments of regular expressions.  A later
registration of a name takes the place of the earlier one.
-/

namespace LogPattern

structure NamedFragment where
  name : String
  fragment : String
deriving DecidableEq, Repr

structure Registry where
  entries : Std.TreeMap String String

namespace Registry

def empty : Registry := ⟨∅⟩

/-- Enter a fragment under a name, whatever the name is. -/
def put (registry : Registry) (name fragment : String) : Registry :=
  ⟨registry.entries.insert name fragment⟩

def builtins : Registry :=
  Builtin.patterns.foldl (fun registry entry => registry.put entry.1 entry.2) empty

def lookup? (registry : Registry) (name : String) : Option String := registry.entries[name]?

def unknownMessage (name : String) : String := "unknown pattern '" ++ name ++ "'"

def contains (registry : Registry) (name : String) : Bool := registry.entries.contains name

def names (registry : Registry) : List String := registry.entries.keys

def size (registry : Registry) : Nat := registry.entries.size

def isEmpty (registry : Registry) : Bool := registry.entries.isEmpty

def nameRule : String := "must be non-empty and contain only [A-Za-z0-9_]"

/--
Register a fragment under a name.  The answer has the fragment that the name stood
for before; only a pattern name can be registered.
-/
def register (registry : Registry) (name fragment : String) :
    Except EngineError (Option String × Registry) :=
  if isPatternName name then .ok (registry.lookup? name, registry.put name fragment)
  else .error (.invalidPatternName name nameRule)

/-- What registering many fragments leads to, also when one of them is refused. -/
structure Registration where
  registry : Registry
  overwritten : List String
  refusal : Option EngineError

/--
Register fragments in order, up to the first that is refused.  `overwritten` are the
fragments overwritten before, last first.
-/
def registerFrom (overwritten : List String) (registry : Registry) :
    List NamedFragment → Registration
  | [] => ⟨registry, overwritten.reverse, none⟩
  | pattern :: rest =>
      match registry.register pattern.name pattern.fragment with
      | .error e => ⟨registry, overwritten.reverse, some e⟩
      | .ok (none, registry) => registerFrom overwritten registry rest
      | .ok (some previous, registry) => registerFrom (previous :: overwritten) registry rest

def registerAll (registry : Registry) (patterns : List NamedFragment) : Registration :=
  registerFrom [] registry patterns

end Registry

end LogPattern
