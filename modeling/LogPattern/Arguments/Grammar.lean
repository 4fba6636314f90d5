/-!
# Command grammars

A command has options, operands, and further commands.  An option has a long name
and perhaps a letter, and always takes a value.
-/

namespace LogPattern

inductive ValueRule where
  | any
  | nonEmpty
  | oneOf (values : List String)
deriving DecidableEq, Repr

namespace ValueRule

def allows : ValueRule → String → Bool
  | any, _ => true
  | nonEmpty, value => !value.isEmpty
  | oneOf values, value => values.contains value

end ValueRule

structure OptionRule where
  name : String
  letter? : Option Char
  values : ValueRule
  /-- The option may be given several times. -/
  repeats : Bool
deriving DecidableEq, Repr

inductive OperandRule where
  | none
  | one
  | oneOrMore
deriving DecidableEq, Repr

namespace OperandRule

def allowsMore : OperandRule → Nat → Bool
  | none, _ => false
  | one, count => count = 0
  | oneOrMore, _ => true

/-- A command line may end with so many operands. -/
def isMet : OperandRule → Nat → Bool
  | none, count => count = 0
  | one, count => count = 1
  | oneOrMore, count => 0 < count

end OperandRule

structure CommandRule where
  name : String
  options : List OptionRule
  operands : OperandRule
  hasVersion : Bool
  /-- Options, by name, that do not go together. -/
  conflicts : List (String × String)
  /-- The commands below this one; if there are any, one must be given. -/
  commands : List CommandRule

namespace CommandRule

def command? (rule : CommandRule) (name : String) : Option CommandRule :=
  rule.commands.find? (·.name = name)

def named? (rule : CommandRule) (name : String) : Option OptionRule :=
  rule.options.find? (·.name = name)

def lettered? (rule : CommandRule) (letter : Char) : Option OptionRule :=
  rule.options.find? (·.letter? = some letter)

def isHelp (rule : CommandRule) (word : String) : Bool :=
  word = "help" && !rule.commands.isEmpty

end CommandRule

end LogPattern
