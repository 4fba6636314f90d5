import LogPattern.Command.Error
import LogPattern.Json.Value

/-!
# Reports

What a command has to say, as text for readers and as JSON for programs.
-/

namespace LogPattern

inductive OutputFormat where
  | text
  | json
deriving DecidableEq, Repr

namespace OutputFormat

def name : OutputFormat → String
  | text => "text"
  | json => "json"

def all : List OutputFormat := [text, json]

def ofName? (name : String) : Option OutputFormat := all.find? (·.name = name)

end OutputFormat

structure Report where
  text : String
  json : Json

def linesText (lines : List String) : String := String.join (lines.map (·.push '\n'))

structure Delivery where
  written : ByteArray
  error? : Option CommandError

namespace Report

def output (report : Report) : OutputFormat → String
  | .text => report.text
  | .json => report.json.pretty.push '\n'

/--
Why a report that needs more room than there is cannot be written.  JSON is written
first and its last line end by itself.
-/
def shortage (report : Report) (format : OutputFormat) (room : Nat) (fault : FileFault) :
    CommandError :=
  match format with
  | .text => .file fault
  | .json => if report.json.pretty.utf8ByteSize ≤ room then .file fault else .json

def deliver (report : Report) (format : OutputFormat) (room : Nat) (fault : FileFault) :
    Delivery :=
  let bytes := (report.output format).toUTF8
  if bytes.size ≤ room then ⟨bytes, none⟩
  else ⟨bytes.extract 0 room, some (report.shortage format room fault)⟩

end Report

end LogPattern
