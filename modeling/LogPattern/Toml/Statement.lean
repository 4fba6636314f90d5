import LogPattern.Toml.Quoted
import LogPattern.Toml.Scalar

/-!
# TOML statements

A document is a list of statements, each on a line of its own: headers, which say
where the following assignments belong, and assignments of values to keys.
-/

namespace LogPattern.Toml

/-- A path of keys, of which there is at least one. -/
structure Path where
  init : List String
  last : String
deriving DecidableEq, Repr

namespace Path

def keys (path : Path) : List String := path.init ++ [path.last]

end Path

/-- The number of values that may enclose a value, and of keys that may precede one. -/
def nestLimit : Nat := 80

def isBareChar (c : Char) : Bool := c.isAlphanum || c = '_' || c = '-'

def readKey : Reader String := fun limit text =>
  match text with
  | '"' :: rest => readBasicFrom limit [] rest
  | '\'' :: rest => readLiteral rest
  | _ =>
      let (key, rest) := text.span isBareChar
      if key.isEmpty then none else some (String.ofList key, rest)

/-- Read the keys after the first, and the white space after them; `done` is last first. -/
def readMoreKeys (limit : Nat) : (fuel : Nat) → (done : List String) → (last : String) →
    List Char → Option (Path × List Char)
  | 0, _, _, _ => none
  | fuel + 1, done, last, text =>
      match text.dropWhile isSpace with
      | '.' :: rest =>
          match readKey limit (rest.dropWhile isSpace) with
          | some (key, rest) => readMoreKeys limit fuel (last :: done) key rest
          | none => none
      | rest => if done.length < nestLimit then some (⟨done.reverse, last⟩, rest) else none

def readPath : Reader Path := fun limit text =>
  match readKey limit text with
  | some (key, rest) => readMoreKeys limit limit [] key rest
  | none => none

def skipComment (text : List Char) : List Char :=
  match text with
  | '#' :: rest => rest.dropWhile isTextChar
  | _ => text

/-- The text after white space, comments and line ends. -/
def skipFill : (fuel : Nat) → List Char → List Char
  | 0, text => text
  | fuel + 1, text =>
      let text := skipComment (text.dropWhile isSpace)
      match afterNewline? text with
      | some rest => skipFill fuel rest
      | none => text

/-- Read the items of an array up to its end; `done` is last first. -/
def readItems (limit : Nat) (item : Reader Value) :
    (fuel : Nat) → (done : List Value) → List Char → Option (List Value × List Char)
  | 0, _, _ => none
  | fuel + 1, done, text =>
      match skipFill limit text with
      | ']' :: rest => some (done.reverse, rest)
      | text =>
          match item limit text with
          | none => none
          | some (value, rest) =>
              match skipFill limit rest with
              | ',' :: rest => readItems limit item fuel (value :: done) rest
              | ']' :: rest => some ((value :: done).reverse, rest)
              | _ => none

def readAssignment (value : Reader Value) : Reader (Path × Value) := fun limit text =>
  match readPath limit text with
  | some (path, '=' :: rest) =>
      (value limit (rest.dropWhile isSpace)).map fun (value, rest) => ((path, value), rest)
  | _ => none

def readAssignments (limit : Nat) (value : Reader Value) :
    (fuel : Nat) → (done : List (Path × Value)) → List Char →
    Option (List (Path × Value) × List Char)
  | 0, _, _ => none
  | fuel + 1, done, text =>
      match skipFill limit text with
      | '\x7d' :: rest => some (done.reverse, rest)
      | text =>
          match readAssignment value limit text with
          | none => none
          | some (assignment, rest) =>
              match skipFill limit rest with
              | ',' :: rest => readAssignments limit value fuel (assignment :: done) rest
              | '\x7d' :: rest => some ((assignment :: done).reverse, rest)
              | _ => none

/--
Read a value.  `table?` makes the table of the assignments in braces, if they
agree; `depth` more values may enclose one.
-/
def readValue (table? : List (Path × Value) → Option Value) : (depth : Nat) → Reader Value
  | depth, limit, text =>
      match text with
      | '[' :: rest =>
          match depth with
          | 0 => none
          | depth + 1 =>
              (readItems limit (readValue table? depth) limit [] rest).map fun (items, rest) =>
                (.array items, rest)
      | '\x7b' :: rest =>
          match depth with
          | 0 => none
          | depth + 1 =>
              match readAssignments limit (readValue table? depth) limit [] rest with
              | some (assignments, rest) => (table? assignments).map (·, rest)
              | none => none
      | '"' :: _ => (readString limit text).map fun (value, rest) => (.string value, rest)
      | '\'' :: _ => (readString limit text).map fun (value, rest) => (.string value, rest)
      | _ =>
          let (word, rest) := readWord text
          (scalar? word).map (·, rest)

inductive Statement where
  | header (path : Path)
  /-- A header that begins a new item of an array of tables. -/
  | itemHeader (path : Path)
  | assignment (path : Path) (value : Value)

namespace Statement

def read (table? : List (Path × Value) → Option Value) : Reader Statement := fun limit text =>
  match text with
  | '[' :: '[' :: rest =>
      match readPath limit (rest.dropWhile isSpace) with
      | some (path, ']' :: ']' :: rest) => some (.itemHeader path, rest)
      | _ => none
  | '[' :: rest =>
      match readPath limit (rest.dropWhile isSpace) with
      | some (path, ']' :: rest) => some (.header path, rest)
      | _ => none
  | _ =>
      (readAssignment (readValue table? nestLimit) limit text).map fun ((path, value), rest) =>
        (.assignment path value, rest)

def readAll (table? : List (Path × Value) → Option Value) (limit : Nat) :
    (fuel : Nat) → (done : List Statement) → List Char → Option (List Statement)
  | 0, _, _ => none
  | fuel + 1, done, text =>
      match skipFill limit text with
      | [] => some done.reverse
      | text =>
          match read table? limit text with
          | none => none
          | some (statement, rest) =>
              let rest := skipComment (rest.dropWhile isSpace)
              if rest.isEmpty then some (statement :: done).reverse
              else
                match afterNewline? rest with
                | some rest => readAll table? limit fuel (statement :: done) rest
                | none => none

end Statement

end LogPattern.Toml
