/-!
# Places in a YAML text

A cursor is a place in a text, with its line and column.  Columns matter in YAML,
and a line may end in five ways.
-/

namespace LogPattern.Yaml

def isAllowed (c : Char) : Bool :=
  let code := c.toNat
  code = 0x9 || code = 0xA || code = 0xD || (0x20 ≤ code && code ≤ 0x7E) || code = 0x85 ||
    (0xA0 ≤ code && code ≤ 0xD7FF) || (0xE000 ≤ code && code ≤ 0xFFFD) || 0x10000 ≤ code

def isBreakChar (c : Char) : Bool :=
  c = '\n' || c = '\r' || c = '\u0085' || c = '\u2028' || c = '\u2029'

def isBlankChar (c : Char) : Bool := c = ' ' || c = '\t'

def startsBlank : List Char → Bool
  | c :: _ => isBlankChar c
  | [] => false

def startsBreak : List Char → Bool
  | c :: _ => isBreakChar c
  | [] => false

def lineEnds (text : List Char) : Bool := text.isEmpty || startsBreak text

def wordEnds (text : List Char) : Bool := lineEnds text || startsBlank text

def startsDocumentMark : List Char → Bool
  | '-' :: '-' :: '-' :: rest => wordEnds rest
  | '.' :: '.' :: '.' :: rest => wordEnds rest
  | _ => false

/-- A place in a text: what follows it, and where it is. -/
structure Cursor where
  rest : List Char
  index : Nat
  line : Nat
  column : Nat

namespace Cursor

def start (text : List Char) : Cursor := ⟨text, 0, 0, 0⟩

def skip (cursor : Cursor) (count : Nat) : Cursor :=
  ⟨cursor.rest.drop count, cursor.index + count, cursor.line, cursor.column + count⟩

def skipWhile (cursor : Cursor) (p : Char → Bool) : Cursor :=
  let (front, rest) := cursor.rest.span p
  ⟨rest, cursor.index + front.length, cursor.line, cursor.column + front.length⟩

def takeWhile (cursor : Cursor) (p : Char → Bool) : List Char × Cursor :=
  let (front, rest) := cursor.rest.span p
  (front, ⟨rest, cursor.index + front.length, cursor.line, cursor.column + front.length⟩)

/--
The end of a line at a place, as it counts in a value, and the place after it; there
is none at the end of the text.
-/
def readBreak (cursor : Cursor) : List Char × Cursor :=
  match cursor.rest with
  | '\r' :: '\n' :: rest => (['\n'], ⟨rest, cursor.index + 2, cursor.line + 1, 0⟩)
  | c :: rest =>
      if isBreakChar c then
        (if c = '\u2028' || c = '\u2029' then [c] else ['\n'],
          ⟨rest, cursor.index + 1, cursor.line + 1, 0⟩)
      else ([], cursor)
  | [] => ([], cursor)

def skipBreak (cursor : Cursor) : Cursor := cursor.readBreak.2

def skipComment (cursor : Cursor) : Cursor :=
  match cursor.rest with
  | '#' :: _ => cursor.skipWhile fun c => !isBreakChar c
  | _ => cursor

/--
The place after the rest of a line, where only white space and a comment may stand,
and after the end of the line.
-/
def finishLine? (cursor : Cursor) : Option Cursor :=
  let cursor := (cursor.skipWhile isBlankChar).skipComment
  if lineEnds cursor.rest then some cursor.skipBreak else none

end Cursor

end LogPattern.Yaml
