import LogPattern.Command.Error
import LogPattern.Json.Value

/-!
# Keeping log records

From the start of logging on, the events of a run that are important enough are
written as records, each in a line of JSON or in plain text.
-/

namespace LogPattern

inductive RecordFormat where
  | json
  | pretty
deriving DecidableEq, Repr

namespace RecordFormat

def name : RecordFormat → String
  | json => "json"
  | pretty => "pretty"

def title : RecordFormat → String
  | json => "JSON"
  | pretty => "pretty"

def all : List RecordFormat := [json, pretty]

def ofName? (name : String) : Option RecordFormat := all.find? (·.name = name)

/-- Settings may name these formats and no others. -/
theorem map_name_all : all.map name = GeneralSettings.formats := rfl

end RecordFormat

/-- From which level on events are recorded; without a level none is. -/
structure RecordFilter where
  least? : Option LogLevel
deriving DecidableEq, Repr

namespace RecordFilter

def levelNames : List (String × Option LogLevel) :=
  [("off", none), ("0", none), ("error", some .error), ("1", some .error),
    ("warn", some .warn), ("2", some .warn), ("info", some .info), ("3", some .info),
    ("debug", some .debug), ("4", some .debug), ("trace", some .trace), ("5", some .trace)]

def ofWord? (word : String) : Option RecordFilter := (levelNames.lookup word.toLower).map .mk

/--
The filter that a list of words with commas between them stands for.  The last word
that is known counts.  A list of words that are not known keeps nothing, and an empty
one keeps errors.
-/
def ofText (text : String) : RecordFilter :=
  let words := (text.splitOn ",").filter (!·.isEmpty)
  if words.isEmpty then ⟨some .error⟩
  else (words.filterMap ofWord?).getLastD ⟨none⟩

def keep (filter : RecordFilter) (events : List LogEvent) : List LogEvent :=
  match filter.least? with
  | some level => LogEvent.atLeast level events
  | none => []

end RecordFilter

structure Logging where
  format : RecordFormat
  filter : RecordFilter
deriving DecidableEq, Repr

namespace Logging

def alreadyStarted (format : RecordFormat) : String :=
  "failed to initialize " ++ format.title ++
    " tracing subscriber: a global default trace dispatcher has already been set"

def unknownFormat (name : String) : String :=
  "unknown log format '" ++ name ++ "', expected 'json' or 'pretty'"

def start (running : Bool) (settings : GeneralSettings) : Except CommandError Logging :=
  match RecordFormat.ofName? settings.logFormat with
  | none => .error (.settings (unknownFormat settings.logFormat))
  | some format =>
      if running then .error (.refused (alreadyStarted format))
      else .ok ⟨format, .ofText settings.logLevel⟩

end Logging

namespace LogValue

def json : LogValue → Json
  | text value => .string value
  | number value => .number value

def plain : LogValue → String
  | text value => value
  | number value => toString value

end LogValue

namespace LogEvent

def record (event : LogEvent) : RecordFormat → String
  | .json =>
      (Json.object [("level", .string event.level.label),
        ("fields", .object (("message", .string event.message) ::
          event.fields.map fun (name, value) => (name, value.json)))]).compact
  | .pretty =>
      "  " ++ event.level.label ++ " " ++
        ", ".intercalate (event.message :: event.fields.map fun (name, value) =>
          name ++ ": " ++ value.plain)

end LogEvent

end LogPattern
