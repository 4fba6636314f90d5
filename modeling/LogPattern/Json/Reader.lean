import LogPattern.Text.Digit
import LogPattern.Text.Reader

/-!
# Reading JSON

Values that somebody asks for are read; the others are passed over, and only their
form is checked.
-/

namespace LogPattern.Json

/-- White space between the parts of a text. -/
def isBlankChar (c : Char) : Bool := c = ' ' || c = '\n' || c = '\t' || c = '\r'

def skipBlank (text : List Char) : List Char := text.dropWhile isBlankChar

def readUnit : List Char → Option (Nat × List Char)
  | a :: b :: c :: d :: rest =>
      match hexValue? a, hexValue? b, hexValue? c, hexValue? d with
      | some a, some b, some c, some d => some (((a * 16 + b) * 16 + c) * 16 + d, rest)
      | _, _, _, _ => none
  | _ => none

def shortForms : List (Char × Char) :=
  [('"', '"'), ('\\', '\\'), ('/', '/'), ('b', '\x08'), ('f', '\x0c'), ('n', '\n'),
    ('r', '\r'), ('t', '\t')]

def pairedChar (high low : Nat) : Char :=
  Char.ofNat (0x10000 + (high - 0xD800) * 0x400 + (low - 0xDC00))

/-- The character that a `u` after a backslash begins.  Half a surrogate pair is none. -/
def readUnicode (text : List Char) : Option (Char × List Char) :=
  match readUnit text with
  | none => none
  | some (unit, rest) =>
      if 0xD800 ≤ unit && unit ≤ 0xDBFF then
        match rest with
        | '\\' :: 'u' :: rest =>
            match readUnit rest with
            | some (low, rest) =>
                if 0xDC00 ≤ low && low ≤ 0xDFFF then some (pairedChar unit low, rest) else none
            | none => none
        | _ => none
      else if 0xDC00 ≤ unit && unit ≤ 0xDFFF then none
      else some (Char.ofNat unit, rest)

/-- Read a string after its opening quote; `done` holds the characters so far, last first. -/
def readStringFrom :
    (fuel : Nat) → (done : List Char) → List Char → Option (String × List Char)
  | 0, _, _ => none
  | _ + 1, _, [] => none
  | fuel + 1, done, c :: rest =>
      if c = '"' then some (String.ofList done.reverse, rest)
      else if c = '\\' then
        match rest with
        | [] => none
        | 'u' :: rest =>
            match readUnicode rest with
            | some (c, rest) => readStringFrom fuel (c :: done) rest
            | none => none
        | c :: rest =>
            match shortForms.lookup c with
            | some c => readStringFrom fuel (c :: done) rest
            | none => none
      else if c.toNat < 0x20 then none
      else readStringFrom fuel (c :: done) rest

def readString : Reader String := fun limit text =>
  match skipBlank text with
  | '"' :: rest => readStringFrom limit [] rest
  | _ => none

/-- Pass over a string after its opening quote, also over halves of surrogate pairs. -/
def skipStringFrom : (fuel : Nat) → List Char → Option (List Char)
  | 0, _ => none
  | _ + 1, [] => none
  | fuel + 1, c :: rest =>
      if c = '"' then some rest
      else if c = '\\' then
        match rest with
        | [] => none
        | 'u' :: rest =>
            match readUnit rest with
            | some (_, rest) => skipStringFrom fuel rest
            | none => none
        | c :: rest => if (shortForms.lookup c).isSome then skipStringFrom fuel rest else none
      else if c.toNat < 0x20 then none
      else skipStringFrom fuel rest

def skipDigits : List Char → Option (List Char)
  | [] => none
  | c :: rest => if isDecimalDigit c then some (rest.dropWhile isDecimalDigit) else none

def skipWhole : List Char → Option (List Char)
  | '0' :: rest => if (rest.head?.map isDecimalDigit).getD false then none else some rest
  | text => skipDigits text

/-- Pass over the exponent of a number, if there is one. -/
def skipExponent : List Char → Option (List Char)
  | [] => some []
  | c :: rest =>
      if c = 'e' || c = 'E' then
        match rest with
        | '+' :: rest => skipDigits rest
        | '-' :: rest => skipDigits rest
        | _ => skipDigits rest
      else some (c :: rest)

def skipUnsigned (text : List Char) : Option (List Char) :=
  match skipWhole text with
  | none => none
  | some ('.' :: rest) => (skipDigits rest).bind skipExponent
  | some rest => skipExponent rest

/-- What a value that is being passed over stands in. -/
inductive Enclosure where
  | array
  | object
deriving DecidableEq, Repr

def skipName (limit : Nat) (text : List Char) : Option (List Char) :=
  match skipBlank text with
  | '"' :: rest =>
      match skipStringFrom limit rest with
      | none => none
      | some rest =>
          match skipBlank rest with
          | ':' :: rest => some rest
          | _ => none
  | _ => none

mutual

/--
Pass over a value and then to the end of the outermost of its enclosures, which
are given from the innermost.  The fuel is twice the limit.
-/
def skipFrom (limit : Nat) : (fuel : Nat) → List Enclosure → List Char → Option (List Char)
  | 0, _, _ => none
  | fuel + 1, enclosures, text =>
      match skipBlank text with
      | 'n' :: 'u' :: 'l' :: 'l' :: rest => leaveFrom limit fuel enclosures rest
      | 't' :: 'r' :: 'u' :: 'e' :: rest => leaveFrom limit fuel enclosures rest
      | 'f' :: 'a' :: 'l' :: 's' :: 'e' :: rest => leaveFrom limit fuel enclosures rest
      | '"' :: rest =>
          match skipStringFrom limit rest with
          | some rest => leaveFrom limit fuel enclosures rest
          | none => none
      | '-' :: rest =>
          match skipUnsigned rest with
          | some rest => leaveFrom limit fuel enclosures rest
          | none => none
      | '[' :: rest =>
          match skipBlank rest with
          | ']' :: rest => leaveFrom limit fuel enclosures rest
          | rest => skipFrom limit fuel (.array :: enclosures) rest
      | '\x7b' :: rest =>
          match skipBlank rest with
          | '\x7d' :: rest => leaveFrom limit fuel enclosures rest
          | rest =>
              match skipName limit rest with
              | some rest => skipFrom limit fuel (.object :: enclosures) rest
              | none => none
      | text =>
          match skipUnsigned text with
          | some rest => leaveFrom limit fuel enclosures rest
          | none => none

def leaveFrom (limit : Nat) : (fuel : Nat) → List Enclosure → List Char → Option (List Char)
  | _, [], text => some text
  | 0, _, _ => none
  | fuel + 1, enclosure :: outer, text =>
      match enclosure, skipBlank text with
      | .array, ']' :: rest => leaveFrom limit fuel outer rest
      | .object, '\x7d' :: rest => leaveFrom limit fuel outer rest
      | .array, ',' :: rest => skipFrom limit fuel (.array :: outer) rest
      | .object, ',' :: rest =>
          match skipName limit rest with
          | some rest => skipFrom limit fuel (.object :: outer) rest
          | none => none
      | _, _ => none

end

def skipValue (limit : Nat) (text : List Char) : Option (List Char) :=
  skipFrom limit (2 * limit) [] text

/--
Read the items of an array up to its end; `done` holds the items so far, last
first, and a comma stands before the next item unless `first` says that none has
come before.
-/
def readItems {α : Type} (limit : Nat) (item : Reader α) :
    (fuel : Nat) → (first : Bool) → (done : List α) → List Char →
    Option (List α × List Char)
  | 0, _, _, _ => none
  | fuel + 1, first, done, text =>
      let next (text : List Char) : Option (List α × List Char) :=
        match item limit text with
        | some (value, rest) => readItems limit item fuel false (value :: done) rest
        | none => none
      match skipBlank text with
      | ']' :: rest => some (done.reverse, rest)
      | ',' :: rest => if first then none else next rest
      | text => if first then next text else none

def readArray {α : Type} (item : Reader α) : Reader (List α) := fun limit text =>
  match skipBlank text with
  | '[' :: rest => readItems limit item limit true [] rest
  | _ => none

/--
The members of a record: a reader of members by name, which answers the record
with the member in it; nothing for a name that the record does not have.
-/
abbrev Members (σ : Type) := String → Option (σ → Reader σ)

/--
Read the members of an object up to its end.  Members that the record does not
have are passed over.
-/
def readMembers {σ : Type} (limit : Nat) (members : Members σ) :
    (fuel : Nat) → (first : Bool) → σ → List Char → Option (σ × List Char)
  | 0, _, _, _ => none
  | fuel + 1, first, record, text =>
      let next (text : List Char) : Option (σ × List Char) :=
        match readString limit text with
        | none => none
        | some (name, rest) =>
            match skipBlank rest with
            | ':' :: rest =>
                match members name with
                | some read =>
                    match read record limit rest with
                    | some (record, rest) => readMembers limit members fuel false record rest
                    | none => none
                | none =>
                    match skipValue limit rest with
                    | some rest => readMembers limit members fuel false record rest
                    | none => none
            | _ => none
      match skipBlank text with
      | '\x7d' :: rest => some (record, rest)
      | ',' :: rest => if first then none else next rest
      | text => if first then next text else none

/--
Read the members of a record that is written as an array, in their order.  Members
at the end may be missing.
-/
def readPositions {σ : Type} (limit : Nat) (first : Bool) (record : σ) :
    List (σ → Reader σ) → List Char → Option (σ × List Char)
  | [], text =>
      match skipBlank text with
      | ']' :: rest => some (record, rest)
      | _ => none
  | read :: later, text =>
      let next (text : List Char) : Option (σ × List Char) :=
        match read record limit text with
        | some (record, rest) => readPositions limit false record later rest
        | none => none
      match skipBlank text with
      | ']' :: rest => some (record, rest)
      | ',' :: rest => if first then none else next rest
      | text => if first then next text else none

def readRecord {σ : Type} (empty : σ) (members : List (String × (σ → Reader σ))) : Reader σ :=
  fun limit text =>
    match skipBlank text with
    | '\x7b' :: rest => readMembers limit (fun name => members.lookup name) limit true empty rest
    | '[' :: rest => readPositions limit true empty (members.map (·.2)) rest
    | _ => none

def readOnce {σ α : Type} (get : σ → Option α) (set : σ → α → σ) (read : Reader α) :
    σ → Reader σ := fun record limit text =>
  if (get record).isSome then none
  else (read limit text).map fun (value, rest) => (set record value, rest)

end LogPattern.Json
