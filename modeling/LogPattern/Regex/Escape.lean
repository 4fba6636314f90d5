import LogPattern.Regex.Blank
import LogPattern.Regex.Fault
import LogPattern.Regex.Syntax
import LogPattern.Text.Digit
import LogPattern.Text.Split

/-!
# Escape sequences

What follows a backslash: a character with a meaning of its own made literal, a
control character, a code point in hexadecimal, a class, a property or an assertion.
The same reader serves expressions and bracketed classes.
-/

namespace LogPattern.Regex

/-- The characters with a meaning of their own, outside or inside brackets. -/
def metaCharacters : List Char := "\\.+*?()|[]\x7b\x7d^$#&-~".toList

def isMeta (c : Char) : Bool := metaCharacters.contains c

/-- A backslash in front of the character may be left out or makes it literal. -/
def isEscapable (c : Char) : Bool :=
  isMeta c || (c.toNat < 0x80 && !c.isAlphanum && c != '<' && c != '>')

/-- Exactly `count` hexadecimal digits, read onto `value`. -/
def readFixedHex (verbose : Bool) :
    (count : Nat) → (value : Nat) → List Char → Except Fault (Nat × List Char)
  | 0, value, text => .ok (value, text)
  | _ + 1, _, [] => .error .escape
  | count + 1, value, c :: rest =>
      match hexValue? c with
      | none => .error .escape
      | some digit => readFixedHex verbose count (16 * value + digit) (skipBlank verbose rest)

/-- A code point in hexadecimal: `count` digits, or any number of them in braces. -/
def readHex (verbose : Bool) (count : Nat) (text : List Char) :
    Except Fault (Atom × List Char) :=
  match skipBlank verbose text with
  | '{' :: rest =>
      match takeToBrace verbose false [] rest with
      | none => .error .escape
      | some (digits, rest) =>
          match (digitsValue? 16 digits).bind charOfCode? with
          | none => .error .escape
          | some c => .ok (.char c false, skipBlank verbose rest)
  | text =>
      match readFixedHex verbose count 0 text with
      | .error fault => .error fault
      | .ok (code, rest) =>
          match charOfCode? code with
          | none => .error .escape
          | some c => .ok (.char c (count == 2), rest)

/--
The query between the braces of a property escape, and whether `!=` turns it round.
-/
def propertyQuery (name : List Char) : PropertyQuery × Bool :=
  match splitAtMark ['!', '='] name with
  | some (property, value) => (.valued property value, true)
  | none =>
      match splitAtMark [':'] name with
      | some (property, value) => (.valued property value, false)
      | none =>
          match splitAtMark ['='] name with
          | some (property, value) => (.valued property value, false)
          | none => (.named name, false)

/-- A property: one letter, or a query in braces. -/
def readProperty (verbose negated : Bool) (text : List Char) :
    Except Fault (Atom × List Char) :=
  match skipBlank verbose text with
  | [] => .error .escape
  | '{' :: rest =>
      match takeToBrace verbose false [] rest with
      | none => .error .escape
      | some (name, rest) =>
          let (query, turned) := propertyQuery name
          .ok (.property query (negated != turned), rest)
  | '\\' :: _ => .error .unknownProperty
  | c :: rest => .ok (.property (.named [c]) negated, skipBlank verbose rest)

def isBoundaryLetter (c : Char) : Bool := c.isAlpha || c = '-'

def boundaryNamed? (name : List Char) : Option Assertion :=
  if name = "start".toList then some .wordStart
  else if name = "end".toList then some .wordEnd
  else if name = "start-half".toList then some .wordStartHalf
  else if name = "end-half".toList then some .wordEndHalf
  else none

/--
What `\b` stands for.  A brace after it begins the name of a special boundary when
a letter or hyphen follows, and a counted repetition otherwise.
-/
def readBoundary (verbose : Bool) (text : List Char) : Except Fault (Atom × List Char) :=
  match text with
  | '{' :: rest =>
      match skipBlank verbose rest with
      | [] => .error .escape
      | c :: inner =>
          if isBoundaryLetter c then
            match takeToBrace verbose false [] (c :: inner) with
            | none => .error .escape
            | some (name, rest) =>
                match boundaryNamed? name with
                | none => .error .escape
                | some kind => .ok (.assertion kind, rest)
          else .ok (.assertion .wordBoundary, text)
  | text => .ok (.assertion .wordBoundary, text)

def readEscape (verbose : Bool) : List Char → Except Fault (Atom × List Char)
  | [] => .error .escape
  | c :: rest =>
      match c with
      | 'x' => readHex verbose 2 rest
      | 'u' => readHex verbose 4 rest
      | 'U' => readHex verbose 8 rest
      | 'p' => readProperty verbose false rest
      | 'P' => readProperty verbose true rest
      | 'd' => .ok (.short .digit false, rest)
      | 'D' => .ok (.short .digit true, rest)
      | 's' => .ok (.short .space false, rest)
      | 'S' => .ok (.short .space true, rest)
      | 'w' => .ok (.short .word false, rest)
      | 'W' => .ok (.short .word true, rest)
      | 'a' => .ok (.char '\x07' false, rest)
      | 'f' => .ok (.char '\x0c' false, rest)
      | 't' => .ok (.char '\t' false, rest)
      | 'n' => .ok (.char '\n' false, rest)
      | 'r' => .ok (.char '\r' false, rest)
      | 'v' => .ok (.char '\x0b' false, rest)
      | 'A' => .ok (.assertion .textStart, rest)
      | 'z' => .ok (.assertion .textEnd, rest)
      | 'b' => readBoundary verbose rest
      | 'B' => .ok (.assertion .notWordBoundary, rest)
      | '<' => .ok (.assertion .wordStart, rest)
      | '>' => .ok (.assertion .wordEnd, rest)
      | c => if isEscapable c then .ok (.char c false, rest) else .error .escape

end LogPattern.Regex
