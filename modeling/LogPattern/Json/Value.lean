import LogPattern.Text.Digit

/-!
# JSON values

Values with their two written forms: on one line without spaces, or spread over lines
with two spaces of indentation for each level.
-/

namespace LogPattern

/-- A value.  Numbers are sizes and counts; the members of an object keep their order. -/
inductive Json where
  | null
  | bool (value : Bool)
  | number (value : Nat)
  | string (value : String)
  | array (items : List Json)
  | object (members : List (String × Json))

namespace Json

def shortEscapes : List (Char × Char) :=
  [('\x08', 'b'), ('\t', 't'), ('\n', 'n'), ('\x0c', 'f'), ('\r', 'r')]

def escapeChar (c : Char) : List Char :=
  if c = '"' || c = '\\' then ['\\', c]
  else if c.toNat < 0x20 then
    match shortEscapes.lookup c with
    | some letter => ['\\', letter]
    | none => ['\\', 'u', '0', '0', smallHexDigits.getD (c.toNat / 16) '0',
        smallHexDigits.getD (c.toNat % 16) '0']
  else [c]

def addString (done value : String) : String :=
  (value.foldl (fun done c => (escapeChar c).foldl String.push done) (done.push '"')).push '"'

def addScalar (done : String) : Json → String
  | null => done ++ "null"
  | bool value => done ++ if value then "true" else "false"
  | number value => done ++ toString value
  | string value => addString done value
  | array _ => done
  | object _ => done

mutual

def addCompact (done : String) : Json → String
  | array items => (addCompactItems (done.push '[') true items).push ']'
  | object members => (addCompactMembers (done.push '\x7b') true members).push '\x7d'
  | scalar => addScalar done scalar

/-- Add the items of an array; `first` says that none has come before. -/
def addCompactItems (done : String) (first : Bool) : List Json → String
  | [] => done
  | item :: rest =>
      addCompactItems (addCompact (if first then done else done.push ',') item) false rest

def addCompactMembers (done : String) (first : Bool) : List (String × Json) → String
  | [] => done
  | (name, value) :: rest =>
      addCompactMembers
        (addCompact ((addString (if first then done else done.push ',') name).push ':') value)
        false rest

end

def compact (value : Json) : String := addCompact "" value

def indentation (level : Nat) : String := String.ofList (List.replicate (2 * level) ' ')

/-- Begin a line at a level, after a comma unless it is the first of its kind. -/
def beginLine (done : String) (level : Nat) (first : Bool) : String :=
  (if first then done.push '\n' else done ++ ",\n") ++ indentation level

mutual

/-- Add a value over several lines, at a level of indentation. -/
def addPretty (done : String) (level : Nat) : Json → String
  | array [] => done ++ "[]"
  | array (item :: rest) =>
      beginLine (addPrettyItems (done.push '[') (level + 1) true (item :: rest)) level true ++ "]"
  | object [] => done ++ "\x7b\x7d"
  | object (member :: rest) =>
      beginLine (addPrettyMembers (done.push '\x7b') (level + 1) true (member :: rest)) level true
        ++ "\x7d"
  | scalar => addScalar done scalar

def addPrettyItems (done : String) (level : Nat) (first : Bool) : List Json → String
  | [] => done
  | item :: rest =>
      addPrettyItems (addPretty (beginLine done level first) level item) level false rest

def addPrettyMembers (done : String) (level : Nat) (first : Bool) :
    List (String × Json) → String
  | [] => done
  | (name, value) :: rest =>
      addPrettyMembers
        (addPretty (addString (beginLine done level first) name ++ ": ") level value)
        level false rest

end

def pretty (value : Json) : String := addPretty "" 0 value

def ofOption : Option String → Json
  | some value => string value
  | none => null

def optionalMember (name : String) : Option String → List (String × Json)
  | some value => [(name, string value)]
  | none => []

end Json

end LogPattern
