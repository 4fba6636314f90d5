/-!
# Field maps

The fields of a matched line, in the order in which they were first captured.
-/

namespace LogPattern

/-- Values by name, in the order in which the names first came. -/
structure FieldMap where
  entries : List (String × String)
deriving DecidableEq, Repr

namespace FieldMap

def empty : FieldMap := ⟨[]⟩

/-- Give a name a value; a name that is there keeps its place. -/
def insertEntry (name value : String) : List (String × String) → List (String × String)
  | [] => [(name, value)]
  | entry :: rest =>
      if entry.1 = name then (name, value) :: rest else entry :: insertEntry name value rest

def insert (map : FieldMap) (name value : String) : FieldMap :=
  ⟨insertEntry name value map.entries⟩

def ofList (pairs : List (String × String)) : FieldMap :=
  pairs.foldl (fun map pair => map.insert pair.1 pair.2) empty

end FieldMap

end LogPattern
