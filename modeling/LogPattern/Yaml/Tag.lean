import LogPattern.Text.Digit
import LogPattern.Yaml.Cursor

/-!
# YAML tags, anchors and directives
-/

namespace LogPattern.Yaml

def isNameChar (c : Char) : Bool := c.isAlphanum || c = '_' || c = '-'

def readAnchorName? (cursor : Cursor) : Option (String × Cursor) :=
  let (name, cursor) := cursor.takeWhile isNameChar
  let ends := wordEnds cursor.rest ||
    (cursor.rest.head?.map fun c => ['?', ':', ',', ']', '\x7d', '%', '@', '`'].contains c).getD
      false
  if name.isEmpty || !ends then none else some (String.ofList name, cursor)

def isTagChar (verbatim : Bool) (c : Char) : Bool :=
  isNameChar c ||
    [';', '/', '?', ':', '@', '&', '=', '+', '$', '.', '!', '~', '*', '\'', '(', ')'].contains c ||
    (verbatim && [',', '[', ']'].contains c)

def readEscapedByte? : List Char → Option (Nat × List Char)
  | '%' :: a :: b :: rest => (digitsValue? 16 [a, b]).map (·, rest)
  | _ => none

/-- Read so many continuation bytes onto the bits of a character. -/
def readContinuation? : (count : Nat) → (bits : Nat) → List Char → Option (Nat × List Char)
  | 0, bits, text => some (bits, text)
  | count + 1, bits, text =>
      match readEscapedByte? text with
      | some (byte, rest) =>
          if byte / 0x40 = 2 then readContinuation? count (bits * 0x40 + byte % 0x40) rest else none
      | none => none

def readEscapedChar? (text : List Char) : Option (Char × List Char) :=
  match readEscapedByte? text with
  | none => none
  | some (byte, rest) =>
      let start? : Option (Nat × Nat) :=
        if byte < 0x80 then some (0, byte)
        else if byte / 0x20 = 6 then some (1, byte % 0x20)
        else if byte / 0x10 = 14 then some (2, byte % 0x10)
        else if byte / 0x08 = 30 then some (3, byte % 0x08)
        else none
      match start? with
      | none => none
      | some (count, bits) =>
          match readContinuation? count bits rest with
          | some (code, rest) => (charOfCode? code).map (·, rest)
          | none => none

def readTagFrom? (verbatim : Bool) :
    (fuel : Nat) → (done : List Char) → Cursor → Option (List Char × Cursor)
  | 0, _, _ => none
  | fuel + 1, done, cursor =>
      match cursor.rest with
      | [] => some (done.reverse, cursor)
      | c :: _ =>
          if c = '%' then
            match readEscapedChar? cursor.rest with
            | none => none
            | some (c, rest) =>
                readTagFrom? verbatim fuel (c :: done)
                  (cursor.skip (cursor.rest.length - rest.length))
          else if isTagChar verbatim c then readTagFrom? verbatim fuel (c :: done) (cursor.skip 1)
          else some (done.reverse, cursor)

/-- A tag as it is written: a handle for a part that is given elsewhere, and the rest. -/
structure TagMark where
  handle : String
  suffix : String
deriving DecidableEq, Repr

namespace TagMark

/-- Read a handle: an exclamation mark, a name if there is one, and another mark if there is one. -/
def readHandle? (cursor : Cursor) : Option (List Char × Cursor) :=
  match cursor.rest with
  | '!' :: _ =>
      let (name, cursor) := (cursor.skip 1).takeWhile isNameChar
      match cursor.rest with
      | '!' :: _ => some ('!' :: name ++ ['!'], cursor.skip 1)
      | _ => some ('!' :: name, cursor)
  | _ => none

def isFullHandle (handle : List Char) : Bool := 2 ≤ handle.length && handle.getLast? = some '!'

def readVerbatim? (limit : Nat) (cursor : Cursor) : Option (TagMark × Cursor) :=
  match readTagFrom? true limit [] cursor with
  | some ([], _) => none
  | some (suffix, cursor) =>
      match cursor.rest with
      | '>' :: _ => some (⟨"", String.ofList suffix⟩, cursor.skip 1)
      | _ => none
  | none => none

def readShort? (limit : Nat) (cursor : Cursor) : Option (TagMark × Cursor) :=
  match readHandle? cursor with
  | none => none
  | some (handle, cursor) =>
      match readTagFrom? false limit [] cursor with
      | none => none
      | some (suffix, cursor) =>
          if isFullHandle handle then
            if suffix.isEmpty then none
            else some (⟨String.ofList handle, String.ofList suffix⟩, cursor)
          else
            let suffix := handle.drop 1 ++ suffix
            if suffix.isEmpty then some (⟨"", "!"⟩, cursor)
            else some (⟨"!", String.ofList suffix⟩, cursor)

def read? (inFlow : Bool) (limit : Nat) (cursor : Cursor) : Option (TagMark × Cursor) :=
  let tag? := match cursor.rest with
    | '!' :: '<' :: _ => readVerbatim? limit (cursor.skip 2)
    | _ => readShort? limit cursor
  tag?.filter fun (_, cursor) =>
    wordEnds cursor.rest || (inFlow && cursor.rest.head? = some ',')

end TagMark

inductive Directive where
  | version (major minor : Nat)
  | handle (handle uri : String)
deriving DecidableEq, Repr

namespace Directive

def readNumber? (cursor : Cursor) : Option (Nat × Cursor) :=
  let (digits, cursor) := cursor.takeWhile isDecimalDigit
  if digits.length > 9 then none else (digitsValue? 10 digits).map (·, cursor)

def readVersion? (cursor : Cursor) : Option (Directive × Cursor) := do
  let (major, cursor) ← readNumber? (cursor.skipWhile isBlankChar)
  match cursor.rest with
  | '.' :: _ =>
      let (minor, cursor) ← readNumber? (cursor.skip 1)
      return (version major minor, cursor)
  | _ => none

def readTagHandle? (limit : Nat) (cursor : Cursor) : Option (Directive × Cursor) := do
  let (mark, cursor) ← TagMark.readHandle? (cursor.skipWhile isBlankChar)
  if mark != ['!'] && !TagMark.isFullHandle mark then none
  else if !startsBlank cursor.rest then none
  else
    let (uri, cursor) ← readTagFrom? true limit [] (cursor.skipWhile isBlankChar)
    if uri.isEmpty || !wordEnds cursor.rest then none
    else return (handle (String.ofList mark) (String.ofList uri), cursor)

def read? (limit : Nat) (cursor : Cursor) : Option (Directive × Cursor) := do
  let (name, cursor) := cursor.takeWhile isNameChar
  if name.isEmpty || !wordEnds cursor.rest then none
  else
    let (directive, cursor) ←
      if name = "YAML".toList then readVersion? cursor
      else if name = "TAG".toList then readTagHandle? limit cursor
      else none
    return (directive, ← cursor.finishLine?)

end Directive

end LogPattern.Yaml
