import LogPattern.Text.Digit
import LogPattern.Yaml.Cursor

/-!
# YAML scalars

Scalars are plain, between quotes, or blocks of lines.  The lines of a plain or
quoted scalar are joined by spaces, and an empty line between them stands for a line
feed.
-/

namespace LogPattern.Yaml

structure Gap where
  spaces : List Char
  broken : Bool
  firstBreak : List Char
  /-- The other line ends, last first. -/
  breaks : List Char

namespace Gap

def empty : Gap := ⟨[], false, [], []⟩

/-- The gap after a line end that does not count. -/
def afterEscapedBreak : Gap := ⟨[], true, [], []⟩

/-- What the gap stands for, last character first. -/
def foldedReversed (gap : Gap) : List Char :=
  if gap.broken then
    if gap.firstBreak = ['\n'] then
      if gap.breaks.isEmpty then [' '] else gap.breaks
    else gap.breaks ++ gap.firstBreak.reverse
  else gap.spaces

/--
Read white space and line ends onto a gap.  Tabs that stand left of the column
`indent` at the front of a line are not allowed.
-/
def read? (indent : Int) : (fuel : Nat) → Gap → Cursor → Option (Gap × Cursor)
  | 0, _, _ => none
  | fuel + 1, gap, cursor =>
      match cursor.rest with
      | [] => some (gap, cursor)
      | c :: _ =>
          if isBlankChar c then
            if gap.broken then
              if c = '\t' && (cursor.column : Int) < indent then none
              else read? indent fuel gap (cursor.skip 1)
            else read? indent fuel { gap with spaces := c :: gap.spaces } (cursor.skip 1)
          else if isBreakChar c then
            let (text, next) := cursor.readBreak
            if gap.broken then
              read? indent fuel { gap with breaks := text.reverse ++ gap.breaks } next
            else read? indent fuel ⟨[], true, text, []⟩ next
          else some (gap, cursor)

end Gap

def isFlowMark (c : Char) : Bool :=
  c = ',' || c = '[' || c = ']' || c = '\x7b' || c = '\x7d'

/-- Read the characters of a plain scalar up to a gap or its end; `done` is last first. -/
def readPlainWord? (inFlow : Bool) :
    (done : List Char) → (read : Nat) → List Char → Option (List Char × Nat)
  | done, read, [] => some (done, read)
  | done, read, c :: rest =>
      if isBlankChar c || isBreakChar c then some (done, read)
      else if c = ':' && wordEnds rest then some (done, read)
      else if inFlow && c = ':' && (rest.head?.map fun d => isFlowMark d || d = '?').getD false then
        none
      else if inFlow && isFlowMark c then some (done, read)
      else readPlainWord? inFlow (c :: done) (read + 1) rest

/-- A scalar that has been read, and whether a line has ended after it. -/
structure ReadScalar where
  text : String
  cursor : Cursor
  lineEnded : Bool

/-- Read a plain scalar; `done` is last first, and `gap` stands before the cursor. -/
def readPlainFrom? (inFlow : Bool) (indent : Int) (limit : Nat) :
    (fuel : Nat) → (done : List Char) → Gap → Cursor → Option ReadScalar
  | 0, _, _, _ => none
  | fuel + 1, done, gap, cursor =>
      let finished : ReadScalar := ⟨String.ofList done.reverse, cursor, gap.broken⟩
      if (cursor.column = 0 && startsDocumentMark cursor.rest) || cursor.rest.head? = some '#' then
        some finished
      else
        match readPlainWord? inFlow (gap.foldedReversed ++ done) 0 cursor.rest with
        | none => none
        | some (_, 0) => some finished
        | some (done, read + 1) =>
            let cursor := cursor.skip (read + 1)
            if !(startsBlank cursor.rest || startsBreak cursor.rest) then
              some ⟨String.ofList done.reverse, cursor, false⟩
            else
              match Gap.read? indent limit .empty cursor with
              | none => none
              | some (gap, cursor) =>
                  if !inFlow && (cursor.column : Int) < indent then
                    some ⟨String.ofList done.reverse, cursor, gap.broken⟩
                  else readPlainFrom? inFlow indent limit fuel done gap cursor

/-- Read a plain scalar whose lines stand right of the column before `indent`. -/
def readPlain? (inFlow : Bool) (indent : Int) (limit : Nat) (cursor : Cursor) :
    Option ReadScalar :=
  readPlainFrom? inFlow indent limit limit [] .empty cursor

def shortForms : List (Char × Char) :=
  [('0', '\x00'), ('a', '\x07'), ('b', '\x08'), ('t', '\t'), ('\t', '\t'), ('n', '\n'),
    ('v', '\x0b'), ('f', '\x0c'), ('r', '\r'), ('e', '\x1b'), (' ', ' '), ('"', '"'),
    ('/', '/'), ('\\', '\\'), ('N', '\u0085'), ('_', '\u00a0'), ('L', '\u2028'), ('P', '\u2029')]

/-- The number of hexadecimal digits after a letter behind a backslash. -/
def codeLengths : List (Char × Nat) := [('x', 2), ('u', 4), ('U', 8)]

def readEscape? : List Char → Option (Char × Nat)
  | [] => none
  | c :: rest =>
      match codeLengths.lookup c with
      | none => (shortForms.lookup c).map (·, 1)
      | some length =>
          let digits := rest.take length
          if digits.length < length then none
          else ((digitsValue? 16 digits).bind charOfCode?).map (·, length + 1)

inductive QuotedStop where
  | gap
  | quote
  | escapedBreak

def readQuotedWord? (quote : Char) :
    (fuel : Nat) → (done : List Char) → Cursor → Option (List Char × QuotedStop × Cursor)
  | 0, _, _ => none
  | fuel + 1, done, cursor =>
      match cursor.rest with
      | [] => some (done, .gap, cursor)
      | c :: rest =>
          if isBlankChar c || isBreakChar c then some (done, .gap, cursor)
          else if c = quote then
            if quote = '\'' && rest.head? = some '\'' then
              readQuotedWord? quote fuel ('\'' :: done) (cursor.skip 2)
            else some (done, .quote, cursor.skip 1)
          else if quote = '"' && c = '\\' then
            if startsBreak rest then some (done, .escapedBreak, (cursor.skip 1).skipBreak)
            else
              match readEscape? rest with
              | none => none
              | some (c, length) =>
                  readQuotedWord? quote fuel (c :: done) (cursor.skip (length + 1))
          else readQuotedWord? quote fuel (c :: done) (cursor.skip 1)

def readQuotedFrom? (quote : Char) (limit : Nat) :
    (fuel : Nat) → (done : List Char) → Cursor → Option (String × Cursor)
  | 0, _, _ => none
  | fuel + 1, done, cursor =>
      if (cursor.column = 0 && startsDocumentMark cursor.rest) || cursor.rest.isEmpty then none
      else
        match readQuotedWord? quote limit done cursor with
        | none => none
        | some (done, .quote, cursor) => some (String.ofList done.reverse, cursor)
        | some (done, .gap, cursor) =>
            match Gap.read? 0 limit .empty cursor with
            | none => none
            | some (gap, cursor) =>
                readQuotedFrom? quote limit fuel (gap.foldedReversed ++ done) cursor
        | some (done, .escapedBreak, cursor) =>
            if cursor.rest.head? = some quote then
              some (String.ofList done.reverse, cursor.skip 1)
            else
              match Gap.read? 0 limit .afterEscapedBreak cursor with
              | none => none
              | some (gap, cursor) =>
                  readQuotedFrom? quote limit fuel (gap.foldedReversed ++ done) cursor

def readQuoted? (quote : Char) (limit : Nat) (cursor : Cursor) : Option (String × Cursor) :=
  readQuotedFrom? quote limit limit [] cursor

inductive Chomping where
  | strip
  | clip
  | keep
deriving DecidableEq, Repr

/-- The first line of a block: what becomes of its end, and its indentation if it is given. -/
structure BlockHeader where
  chomping : Chomping
  increment : Option Nat

def readChomping (cursor : Cursor) : Option Chomping × Cursor :=
  match cursor.rest with
  | '+' :: _ => (some .keep, cursor.skip 1)
  | '-' :: _ => (some .strip, cursor.skip 1)
  | _ => (none, cursor)

/-- Read the digit that gives the indentation of a block, which is not zero. -/
def readIncrement? (cursor : Cursor) : Option (Option Nat × Cursor) :=
  match cursor.rest with
  | c :: _ =>
      if c = '0' then none
      else if isDecimalDigit c then some (some (c.toNat - '0'.toNat), cursor.skip 1)
      else some (none, cursor)
  | [] => some (none, cursor)

def BlockHeader.read? (cursor : Cursor) : Option (BlockHeader × Cursor) := do
  let (chomping, cursor) := readChomping cursor
  let (increment, cursor) ← readIncrement? cursor
  let (chomping, cursor) :=
    if chomping.isNone && increment.isSome then readChomping cursor else (chomping, cursor)
  return (⟨chomping.getD .clip, increment⟩, ← cursor.finishLine?)

/-- Empty lines of a block, last line end first, and the widest indentation of one. -/
structure BlockBreaks where
  breaks : List Char
  widest : Nat
  cursor : Cursor

/--
Read empty lines and the indentation of the line after them, up to the column
`indent` if that is known.
-/
def BlockBreaks.read? (indent : Option Nat) :
    (fuel : Nat) → BlockBreaks → Option BlockBreaks
  | 0, _ => none
  | fuel + 1, ⟨breaks, widest, cursor⟩ =>
      let spaces := (cursor.rest.takeWhile (· = ' ')).length
      let cursor := cursor.skip (match indent with
        | none => spaces
        | some indent => min spaces (indent - cursor.column))
      let widest := max widest cursor.column
      let short := match indent with
        | none => true
        | some indent => cursor.column < indent
      if short && cursor.rest.head? = some '\t' then none
      else if startsBreak cursor.rest then
        let (text, next) := cursor.readBreak
        BlockBreaks.read? indent fuel ⟨text.reverse ++ breaks, widest, next⟩
      else some ⟨breaks, widest, cursor⟩

/--
Read the lines of a block at the column `indent`; `done`, the end of the line before
and the empty lines after it are last first, and `spaced` says that the line before
began with white space.
-/
def readBlockLines? (folded : Bool) (indent limit : Nat) :
    (fuel : Nat) → (done : List Char) → (lineEnd : List Char) → (spaced : Bool) →
    BlockBreaks → Option (List Char × List Char × BlockBreaks)
  | 0, _, _, _, _ => none
  | fuel + 1, done, lineEnd, spaced, breaks =>
      let cursor := breaks.cursor
      if cursor.column != indent || cursor.rest.isEmpty then some (done, lineEnd, breaks)
      else
        let blank := startsBlank cursor.rest
        let joint :=
          if folded && lineEnd = ['\n'] && !spaced && !blank then
            if breaks.breaks.isEmpty then [' '] else []
          else lineEnd
        let (line, cursor) := cursor.takeWhile fun c => !isBreakChar c
        let (lineEnd, cursor) := cursor.readBreak
        match BlockBreaks.read? (some indent) limit ⟨[], 0, cursor⟩ with
        | none => none
        | some next =>
            readBlockLines? folded indent limit fuel
              (line.reverse ++ breaks.breaks ++ joint ++ done) lineEnd blank next

def readBlock? (folded : Bool) (outer : Int) (limit : Nat) (cursor : Cursor) :
    Option (String × Cursor) := do
  let (header, cursor) ← BlockHeader.read? cursor
  let given := header.increment.map fun increment => (max outer 0).toNat + increment
  let breaks ← BlockBreaks.read? given limit ⟨[], 0, cursor⟩
  let indent := given.getD (max breaks.widest (max (outer + 1) 1).toNat)
  let (done, lineEnd, breaks) ← readBlockLines? folded indent limit limit [] [] false breaks
  let tail := match header.chomping with
    | .strip => []
    | .clip => lineEnd
    | .keep => breaks.breaks ++ lineEnd
  return (String.ofList (tail ++ done).reverse, breaks.cursor)

end LogPattern.Yaml
