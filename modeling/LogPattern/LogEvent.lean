/-!
# Log events

What the program reports about its work besides its results: a level, a message,
and named values.  Functions that report answer their events as data.
-/

namespace LogPattern

inductive LogLevel where
  | trace
  | debug
  | info
  | warn
  | error
deriving DecidableEq, Repr

namespace LogLevel

def name : LogLevel → String
  | trace => "trace"
  | debug => "debug"
  | info => "info"
  | warn => "warn"
  | error => "error"

def label (level : LogLevel) : String := level.name.toUpper

def all : List LogLevel := [trace, debug, info, warn, error]

def ofName? (name : String) : Option LogLevel := all.find? (·.name = name)

def rank : LogLevel → Nat
  | trace => 0
  | debug => 1
  | info => 2
  | warn => 3
  | error => 4

end LogLevel

inductive LogValue where
  | text (value : String)
  | number (value : Nat)
deriving DecidableEq, Repr

structure LogEvent where
  level : LogLevel
  message : String
  fields : List (String × LogValue)
deriving DecidableEq, Repr

/-- A result with the events on the way to it, in order. -/
structure Logged (α : Type) where
  value : α
  events : List LogEvent

namespace LogEvent

def atLeast (level : LogLevel) (events : List LogEvent) : List LogEvent :=
  events.filter fun event => level.rank ≤ event.level.rank

end LogEvent

end LogPattern
