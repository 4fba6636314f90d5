import LogPattern.Arguments.Grammar

/-!
# Reading command lines

A command line is read word by word against a grammar.  The value of an option
follows it as a word of its own, or stands in the same word.  A value is looked at
when the next option or operand begins, so of two faults the earlier one counts, and a
fault before a call for help comes first.  After the word `--` there are only operands.
-/

namespace LogPattern

/-- Why reading ends before there is a command to be run. -/
inductive Stop where
  | help
  | version
  /-- The command line is not in the grammar. -/
  | misuse
deriving DecidableEq, Repr

/-- A command as it has been given: with options in order, each with its value. -/
structure GivenCommand where
  options : List (String × String)
  operands : List String
  command? : Option (String × GivenCommand)

namespace GivenCommand

def values (given : GivenCommand) (name : String) : List String :=
  (given.options.filter (·.1 = name)).map (·.2)

def value? (given : GivenCommand) (name : String) : Option String := given.options.lookup name

/-- The value of an option, of this command or else the last command below it that has it. -/
def innermost? (name : String) : GivenCommand → Option String
  | ⟨options, _, none⟩ => options.lookup name
  | ⟨options, _, some (_, inner)⟩ =>
      (inner.innermost? name).orElse fun _ => options.lookup name

end GivenCommand

structure OpenOption where
  rule : OptionRule
  value? : Option String

structure CommandReading where
  options : List (String × String)
  operands : List String
  open? : Option OpenOption

namespace CommandReading

def empty : CommandReading := ⟨[], [], none⟩

def awaitsValue (reading : CommandReading) : Bool :=
  match reading.open? with
  | some ⟨_, none⟩ => true
  | _ => false

def addOption (reading : CommandReading) (rule : OptionRule) (value : String) :
    Except Stop CommandReading :=
  if !rule.values.allows value then .error .misuse
  else if !rule.repeats && (reading.options.lookup rule.name).isSome then .error .misuse
  else .ok ⟨reading.options ++ [(rule.name, value)], reading.operands, none⟩

def settle (reading : CommandReading) : Except Stop CommandReading :=
  match reading.open? with
  | none => .ok reading
  | some ⟨_, none⟩ => .error .misuse
  | some ⟨rule, some value⟩ => reading.addOption rule value

def beginOption (reading : CommandReading) (rule : OptionRule) (attached? : Option String) :
    Except Stop CommandReading :=
  match reading.settle with
  | .error stop => .error stop
  | .ok reading =>
      match attached? with
      | some value => reading.addOption rule value
      | none => .ok { reading with open? := some ⟨rule, none⟩ }

/-- Stop, unless the option that has been begun is at fault. -/
def stopWith (reading : CommandReading) (stop : Stop) : Except Stop CommandReading :=
  match reading.settle with
  | .error fault => .error fault
  | .ok _ => .error stop

def addOperand (rule : CommandRule) (reading : CommandReading) (word : String) :
    Except Stop CommandReading :=
  match reading.settle with
  | .error stop => .error stop
  | .ok reading =>
      if rule.operands.allowsMore reading.operands.length then
        .ok { reading with operands := reading.operands ++ [word] }
      else .error .misuse

/-- Read a word that begins with two hyphens, from behind them. -/
def readLong (rule : CommandRule) (reading : CommandReading) (text : List Char) :
    Except Stop CommandReading :=
  let name := String.ofList (text.takeWhile (· != '='))
  let attached? : Option String :=
    match text.dropWhile (· != '=') with
    | [] => none
    | _ :: value => some (String.ofList value)
  match rule.named? name with
  | some option => reading.beginOption option attached?
  | none =>
      if attached?.isSome then .error .misuse
      else if name = "help" then reading.stopWith .help
      else if name = "version" && rule.hasVersion then reading.stopWith .version
      else .error .misuse

/-- The value that follows a letter in its word, with or without a sign between them. -/
def attachedValue? : List Char → Option String
  | [] => none
  | '=' :: value => some (String.ofList value)
  | value => some (String.ofList value)

/-- Read a word that begins with one hyphen, from behind it. -/
def readLetters (rule : CommandRule) (reading : CommandReading) (text : List Char) :
    Except Stop CommandReading :=
  match text with
  | [] => .ok reading
  | letter :: rest =>
      match rule.lettered? letter with
      | some option => reading.beginOption option (attachedValue? rest)
      | none =>
          if letter = 'h' then reading.stopWith .help
          else if letter = 'V' && rule.hasVersion then reading.stopWith .version
          else .error .misuse

def readWord (rule : CommandRule) (reading : CommandReading) (word : String) :
    Except Stop CommandReading :=
  match word.toList with
  | '-' :: '-' :: text => readLong rule reading text
  | '-' :: letter :: text => readLetters rule reading (letter :: text)
  | _ =>
      match reading.open? with
      | some ⟨option, none⟩ => .ok { reading with open? := some ⟨option, some word⟩ }
      | _ => addOperand rule reading word

def hasConflict (rule : CommandRule) (reading : CommandReading) : Bool :=
  let isGiven (name : String) : Bool := (reading.options.lookup name).isSome
  rule.conflicts.any fun (one, other) => isGiven one && isGiven other

def finish (rule : CommandRule) (reading : CommandReading)
    (command? : Option (String × GivenCommand)) : Except Stop GivenCommand :=
  match reading.settle with
  | .error stop => .error stop
  | .ok reading =>
      if command?.isNone && !rule.commands.isEmpty then .error .misuse
      else if !rule.operands.isMet reading.operands.length then .error .misuse
      else if hasConflict rule reading then .error .misuse
      else .ok ⟨reading.options, reading.operands, command?⟩

end CommandReading

namespace CommandRule

def answerHelp (rule : CommandRule) : List String → Stop
  | [] => .help
  | word :: rest =>
      match rule.command? word with
      | some inner => inner.answerHelp rest
      | none => if rule.isHelp word && rest.isEmpty then .help else .misuse

def readFrom (rule : CommandRule) (reading : CommandReading) :
    List String → Except Stop GivenCommand
  | [] => reading.finish rule none
  | word :: rest =>
      match if reading.awaitsValue then none else rule.command? word with
      | some inner =>
          match inner.readFrom .empty rest with
          | .error stop => .error stop
          | .ok given => reading.finish rule (some (word, given))
      | none =>
          if !reading.awaitsValue && rule.isHelp word then .error (rule.answerHelp rest)
          else if word = "--" then
            match rest.foldlM (CommandReading.addOperand rule) reading with
            | .error stop => .error stop
            | .ok reading => reading.finish rule none
          else
            match reading.readWord rule word with
            | .error stop => .error stop
            | .ok reading => rule.readFrom reading rest

def read (rule : CommandRule) (words : List String) : Except Stop GivenCommand :=
  rule.readFrom .empty words

end CommandRule

end LogPattern
