import LogPattern.Json.Reader
import LogPattern.Json.Value
import LogPattern.Validation.Outcome

/-!
# Requests and outcomes in JSON

A request has the members `logLines` and `patterns`, and a pattern the members `name`
and `pattern`; what is missing is empty.
-/

namespace LogPattern

namespace NamedPattern

/-- A pattern of which not all members have been read. -/
structure Draft where
  name? : Option String
  pattern? : Option String

open Json in
def read : Reader NamedPattern := fun limit text =>
  let members : List (String × (Draft → Reader Draft)) := [
    ("name", readOnce (·.name?) (fun draft name => { draft with name? := some name }) readString),
    ("pattern", readOnce (·.pattern?)
      (fun draft pattern => { draft with pattern? := some pattern }) readString)]
  (readRecord ⟨none, none⟩ members limit text).map fun (draft, rest) =>
    (⟨draft.name?.getD "", draft.pattern?.getD ""⟩, rest)

def json (pattern : NamedPattern) : Json :=
  .object [("name", .string pattern.name), ("pattern", .string pattern.pattern)]

end NamedPattern

namespace ValidationRequest

structure Draft where
  logLines? : Option (List String)
  patterns? : Option (List NamedPattern)

open Json in
def read : Reader ValidationRequest := fun limit text =>
  let members : List (String × (Draft → Reader Draft)) := [
    ("logLines", readOnce (·.logLines?)
      (fun draft lines => { draft with logLines? := some lines }) (readArray readString)),
    ("patterns", readOnce (·.patterns?)
      (fun draft patterns => { draft with patterns? := some patterns })
      (readArray NamedPattern.read))]
  (readRecord ⟨none, none⟩ members limit text).map fun (draft, rest) =>
    (⟨draft.logLines?.getD [], draft.patterns?.getD []⟩, rest)

def ofText? (text : String) : Option ValidationRequest := read.readWhole Json.skipBlank text

def json (request : ValidationRequest) : Json :=
  .object [("logLines", .array (request.logLines.map .string)),
    ("patterns", .array (request.patterns.map NamedPattern.json))]

end ValidationRequest

def FieldMap.json (fields : FieldMap) : Json :=
  .object (fields.entries.map fun (name, value) => (name, .string value))

def LineResult.json (result : LineResult) : Json :=
  .object ([("lineNumber", .number result.line.number), ("line", .string result.line.text),
    ("parsed", (result.outcome.fields?.map FieldMap.json).getD .null)] ++
    Json.optionalMember "error" result.outcome.errorMessage?)

def ValidationOutcome.json (outcome : ValidationOutcome) : Json :=
  .object ([("success", .bool outcome.success),
    ("results", .array (outcome.results.map LineResult.json))] ++
    Json.optionalMember "error" outcome.error?)

end LogPattern
