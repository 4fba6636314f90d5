import LogPattern.Text.Digit
import LogPattern.Text.Reader

/-!
# TOML strings

A string between double quotes has escapes, one between single quotes has none; with
three quotes on either side it may go over several lines.
-/

namespace LogPattern.Toml

/-- The character may stand in a string or comment; line ends are treated apart. -/
def isTextChar (c : Char) : Bool := c = '\t' || (0x20 ≤ c.toNat && c.toNat != 0x7F)

def isSpace (c : Char) : Bool := c = ' ' || c = '\t'

def afterNewline? : List Char → Option (List Char)
  | '\n' :: rest => some rest
  | '\r' :: '\n' :: rest => some rest
  | _ => none

def shortForms : List (Char × Char) :=
  [('"', '"'), ('\\', '\\'), ('b', '\x08'), ('e', '\x1b'), ('f', '\x0c'), ('n', '\n'),
    ('r', '\r'), ('t', '\t')]

/-- The character with a code point of so many hexadecimal digits. -/
def readCode (digits : Nat) (text : List Char) : Option (Char × List Char) :=
  let (code, rest) := text.splitAt digits
  if code.length < digits then none
  else ((digitsValue? 16 code).bind charOfCode?).map (·, rest)

def readEscape : List Char → Option (Char × List Char)
  | 'x' :: rest => readCode 2 rest
  | 'u' :: rest => readCode 4 rest
  | 'U' :: rest => readCode 8 rest
  | c :: rest => (shortForms.lookup c).map (·, rest)
  | [] => none

/-- Read a string on one line after its opening double quote; `done` is last first. -/
def readBasicFrom : (fuel : Nat) → (done : List Char) → List Char → Option (String × List Char)
  | 0, _, _ => none
  | _ + 1, _, [] => none
  | fuel + 1, done, c :: rest =>
      if c = '"' then some (String.ofList done.reverse, rest)
      else if c = '\\' then
        match readEscape rest with
        | some (c, rest) => readBasicFrom fuel (c :: done) rest
        | none => none
      else if isTextChar c then readBasicFrom fuel (c :: done) rest
      else none

def readLiteral (text : List Char) : Option (String × List Char) :=
  match text.span fun c => isTextChar c && c != '\'' with
  | (value, '\'' :: rest) => some (String.ofList value, rest)
  | _ => none

def countQuotes (quote : Char) (text : List Char) : Nat × List Char :=
  let (quotes, rest) := text.span (· = quote)
  (quotes.length, rest)

def skipLines : (fuel : Nat) → List Char → List Char
  | 0, text => text
  | fuel + 1, text =>
      let text := text.dropWhile isSpace
      match afterNewline? text with
      | some rest => skipLines fuel rest
      | none => text

/-- The text after a backslash at the end of a line, and all white space after it. -/
def afterLineEscape? (limit : Nat) (text : List Char) : Option (List Char) :=
  (afterNewline? (text.dropWhile isSpace)).map (skipLines limit)

/--
Read a string over several lines after its three opening quotes.  Up to two quotes
stand for themselves, also right before the three that end the string.
-/
def readLinesFrom (quote : Char) (escapes : Bool) (limit : Nat) :
    (fuel : Nat) → (done : List Char) → List Char → Option (String × List Char)
  | 0, _, _ => none
  | _ + 1, _, [] => none
  | fuel + 1, done, c :: rest =>
      if c = quote then
        let (more, rest) := countQuotes quote rest
        if more < 2 then
          readLinesFrom quote escapes limit fuel (List.replicate (more + 1) quote ++ done) rest
        else if more ≤ 4 then
          some (String.ofList (List.replicate (more - 2) quote ++ done).reverse, rest)
        else none
      else if escapes && c = '\\' then
        match afterLineEscape? limit rest with
        | some rest => readLinesFrom quote escapes limit fuel done rest
        | none =>
            match readEscape rest with
            | some (c, rest) => readLinesFrom quote escapes limit fuel (c :: done) rest
            | none => none
      else if isTextChar c || c = '\n' then
        readLinesFrom quote escapes limit fuel (c :: done) rest
      else if c = '\r' && rest.head? = some '\n' then
        readLinesFrom quote escapes limit fuel (c :: done) rest
      else none

/-- Read a string over several lines; a line end right after the opening is dropped. -/
def readLines (quote : Char) (escapes : Bool) : Reader String := fun limit text =>
  readLinesFrom quote escapes limit limit [] ((afterNewline? text).getD text)

def readString : Reader String := fun limit text =>
  match text with
  | '"' :: '"' :: '"' :: rest => readLines '"' true limit rest
  | '\'' :: '\'' :: '\'' :: rest => readLines '\'' false limit rest
  | '"' :: rest => readBasicFrom limit [] rest
  | '\'' :: rest => readLiteral rest
  | _ => none

end LogPattern.Toml
