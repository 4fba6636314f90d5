import LogPattern.Arguments.Reader
import LogPattern.Report.Basic
import LogPattern.Settings.Load

/-!
# Invocations

What a command line asks for.  Options that say how to report may stand before or
behind any command; of several values the one behind the innermost command counts.
-/

namespace LogPattern

structure BatchSources where
  patterns : List String
  definitions? : Option String
  /-- A file with the lines; without it they come from the standard input. -/
  logFile? : Option String
deriving DecidableEq, Repr

inductive Task where
  | validateBatch (sources : BatchSources) (patternDirs : List String)
  | answerRequest (path : String) (patternDirs : List String)
  | showFilter (patterns : List String)
  | listPatterns (part? : Option String)
  | showPattern (name : String)
  | checkSettings
  | showSettings (sectionName? : Option String)
deriving DecidableEq, Repr

namespace Task

/-- The files and directories that the command line names for a task. -/
def paths : Task → List String
  | validateBatch sources patternDirs =>
      patternDirs ++ sources.definitions?.toList ++ sources.logFile?.toList
  | answerRequest path patternDirs => patternDirs ++ [path]
  | _ => []

def readsInput : Task → Bool
  | validateBatch sources _ => sources.logFile?.isNone
  | _ => false

end Task

/-- A command line with all that it says. -/
structure Invocation where
  settingsPath : String
  logLevel? : Option String
  format : OutputFormat
  task : Task
deriving DecidableEq, Repr

namespace Invocation

def commonOptions : List OptionRule :=
  [⟨"config", some 'c', .nonEmpty, false⟩, ⟨"log-level", none, .any, false⟩,
    ⟨"output", none, .oneOf (OutputFormat.all.map (·.name)), false⟩]

def leaf (name : String) (options : List OptionRule) (operands : OperandRule)
    (conflicts : List (String × String)) : CommandRule :=
  ⟨name, commonOptions ++ options, operands, false, conflicts, []⟩

def branch (name : String) (hasVersion : Bool) (commands : List CommandRule) : CommandRule :=
  ⟨name, commonOptions, .none, hasVersion, [], commands⟩

def validateRule : CommandRule :=
  leaf "validate"
    [⟨"pattern", some 'p', .any, true⟩, ⟨"definitions", none, .nonEmpty, false⟩,
      ⟨"log-file", none, .nonEmpty, false⟩, ⟨"pattern-dir", none, .nonEmpty, true⟩,
      ⟨"request", none, .nonEmpty, false⟩]
    .none [("request", "pattern"), ("request", "definitions"), ("request", "log-file")]

def syntaxRule : CommandRule := leaf "syntax" [] .oneOrMore []

def patternsRule : CommandRule :=
  branch "patterns" false
    [leaf "list" [⟨"filter", none, .any, false⟩] .none [], leaf "show" [] .one []]

def settingsRule : CommandRule :=
  branch "config" false
    [leaf "validate" [] .none [], leaf "show" [⟨"section", none, .any, false⟩] .none []]

def grammar : CommandRule :=
  branch "grokline" true [validateRule, syntaxRule, patternsRule, settingsRule]

def validateTask (given : GivenCommand) : Task :=
  let patternDirs := given.values "pattern-dir"
  match given.value? "request" with
  | some path => .answerRequest path patternDirs
  | none =>
      .validateBatch
        ⟨given.values "pattern", given.value? "definitions", given.value? "log-file"⟩ patternDirs

def patternsTask? (name : String) (given : GivenCommand) : Option Task :=
  match name with
  | "list" => some (.listPatterns (given.value? "filter"))
  | "show" => given.operands.head?.map .showPattern
  | _ => none

def settingsTask? (name : String) (given : GivenCommand) : Option Task :=
  match name with
  | "validate" => some .checkSettings
  | "show" => some (.showSettings (given.value? "section"))
  | _ => none

def task? (name : String) (given : GivenCommand) : Option Task :=
  match name with
  | "validate" => some (validateTask given)
  | "syntax" => some (.showFilter given.operands)
  | "patterns" => given.command?.bind fun (name, given) => patternsTask? name given
  | "config" => given.command?.bind fun (name, given) => settingsTask? name given
  | _ => none

def ofGiven? (given : GivenCommand) : Option Invocation := do
  let (name, inner) ← given.command?
  let task ← task? name inner
  let format ← match given.innermost? "output" with
    | some name => OutputFormat.ofName? name
    | none => some .text
  return ⟨(given.innermost? "config").getD Settings.usualPath, given.innermost? "log-level",
    format, task⟩

def ofWords (words : List String) : Except Stop Invocation :=
  match grammar.read words with
  | .error stop => .error stop
  | .ok given =>
      match ofGiven? given with
      | some invocation => .ok invocation
      | none => .error .misuse

def versionText : String := "grokline 0.1.0\n"

/-- The answer to a call for help, and to command lines that are not in the grammar. -/
def usageText : String := linesText [
  "Usage: grokline [OPTIONS] COMMAND",
  "",
  "Commands:",
  "  validate         Validate log lines: -p PATTERN, --definitions FILE, --log-file FILE,",
  "                   --pattern-dir DIR, or --request FILE",
  "  syntax PATTERN   Print the filter block for patterns",
  "  patterns list    List the named patterns: --filter PART",
  "  patterns show    Show one of them: NAME",
  "  config validate  Check the settings",
  "  config show      Show the settings: --section NAME",
  "",
  "Options:",
  "  -c, --config FILE      Where the settings are [default: grokline.toml]",
  "      --log-level LEVEL  From which level on log records are kept",
  "      --output FORMAT    The form of reports: text or json [default: text]",
  "  -h, --help             Print help",
  "  -V, --version          Print the version"]

end Invocation

end LogPattern
