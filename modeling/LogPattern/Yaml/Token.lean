import LogPattern.Yaml.Scalar
import LogPattern.Yaml.Tag

/-!
# YAML tokens

A text is a list of tokens.  Block collections have no brackets: where a line is
indented further a collection starts, and where it is not one ends, so there are
tokens for that which the text does not show.  A scalar may turn out to be a key
only at the colon after it; then the token for a key is put in front of it.
-/

namespace LogPattern.Yaml

inductive Token where
  | directive (directive : Directive)
  | documentStart
  | documentEnd
  | blockSequenceStart
  | blockMappingStart
  | blockEnd
  | flowSequenceStart
  | flowSequenceEnd
  | flowMappingStart
  | flowMappingEnd
  | blockEntry
  | flowEntry
  | key
  | value
  | aliasOf (name : String)
  | anchor (name : String)
  | tag (mark : TagMark)
  | scalar (text : String) (plain : Bool)
deriving DecidableEq, Repr

/-- A place where a key without a mark of its own may start. -/
structure KeyCandidate where
  tokensBefore : Nat
  index : Nat
  line : Nat
  column : Nat
  required : Bool
deriving DecidableEq, Repr

/-- The number of characters that a key without a mark may have. -/
def maxKeyLength : Nat := 1024

/-- Reading under way. -/
structure Scan where
  cursor : Cursor
  /-- The tokens so far, last first. -/
  tokens : List Token
  tokenCount : Nat
  indent : Int
  outerIndents : List Int
  keyAllowed : Bool
  /-- The candidate of every flow collection, innermost first, and that of the blocks. -/
  candidates : List (Option KeyCandidate)

namespace Scan

def start (text : List Char) : Scan := ⟨.start text, [], 0, -1, [], true, [none]⟩

def inFlow (scan : Scan) : Bool := 1 < scan.candidates.length

def push (scan : Scan) (token : Token) : Scan :=
  { scan with tokens := token :: scan.tokens, tokenCount := scan.tokenCount + 1 }

def insert (scan : Scan) (before : Nat) (token : Token) : Scan :=
  let (later, earlier) := scan.tokens.splitAt (scan.tokenCount - before)
  { scan with tokens := later ++ token :: earlier, tokenCount := scan.tokenCount + 1 }

def skipToToken : (fuel : Nat) → Scan → Scan
  | 0, scan => scan
  | fuel + 1, scan =>
      let cursor := if scan.cursor.index = 0 && scan.cursor.rest.head? = some '\ufeff'
        then scan.cursor.skip 1 else scan.cursor
      let tabs := scan.inFlow || !scan.keyAllowed
      let cursor := (cursor.skipWhile fun c => c = ' ' || (tabs && c = '\t')).skipComment
      if startsBreak cursor.rest then
        skipToToken fuel { scan with
          cursor := cursor.skipBreak
          keyAllowed := scan.keyAllowed || !scan.inFlow }
      else { scan with cursor }

/-- A candidate is too far back: a key stands on one line and is not too long. -/
def isStale (cursor : Cursor) (candidate : KeyCandidate) : Bool :=
  candidate.line < cursor.line || candidate.index + maxKeyLength < cursor.index

/-- Drop the candidates that are too far back, unless a key is required there. -/
def dropStale? (scan : Scan) : Option Scan :=
  if scan.candidates.any fun candidate? =>
      (candidate?.map fun candidate => candidate.required && isStale scan.cursor candidate).getD
        false
  then none
  else some { scan with
    candidates := scan.candidates.map (·.filter fun candidate => !isStale scan.cursor candidate) }

def dropCandidate? (scan : Scan) : Option Scan :=
  match scan.candidates with
  | some candidate :: outer =>
      if candidate.required then none else some { scan with candidates := none :: outer }
  | _ => some scan

def noteCandidate? (scan : Scan) : Option Scan :=
  if scan.keyAllowed then
    scan.dropCandidate?.map fun scan =>
      let candidate : KeyCandidate := ⟨scan.tokenCount, scan.cursor.index, scan.cursor.line,
        scan.cursor.column, !scan.inFlow && scan.indent = scan.cursor.column⟩
      { scan with candidates := some candidate :: scan.candidates.drop 1 }
  else some scan

/-- End the block collections right of a column. -/
def unroll (column : Int) (tokens : List Token) (count : Nat) (indent : Int) :
    List Int → List Token × Nat × Int × List Int
  | [] => (tokens, count, indent, [])
  | outer :: rest =>
      if column < indent then unroll column (.blockEnd :: tokens) (count + 1) outer rest
      else (tokens, count, indent, outer :: rest)

def unrollTo (scan : Scan) (column : Int) : Scan :=
  if scan.inFlow then scan
  else
    let (tokens, count, indent, outer) :=
      unroll column scan.tokens scan.tokenCount scan.indent scan.outerIndents
    { scan with tokens, tokenCount := count, indent, outerIndents := outer }

/-- Start a block collection at a column, unless there is one, after so many tokens. -/
def rollTo (scan : Scan) (column : Nat) (before : Nat) (token : Token) : Scan :=
  if scan.inFlow || (column : Int) ≤ scan.indent then scan
  else
    { scan.insert before token with
      indent := column
      outerIndents := scan.indent :: scan.outerIndents }

def take (scan : Scan) (length : Nat) (token : Token) : Scan :=
  { scan with cursor := scan.cursor.skip length }.push token

def leaveBlocks? (scan : Scan) : Option Scan :=
  ((scan.unrollTo (-1)).dropCandidate?).map fun scan => { scan with keyAllowed := false }

def openFlow? (scan : Scan) (token : Token) : Option Scan :=
  scan.noteCandidate?.map fun scan =>
    { scan with candidates := none :: scan.candidates, keyAllowed := true }.take 1 token

def closeFlow? (scan : Scan) (token : Token) : Option Scan :=
  scan.dropCandidate?.map fun scan =>
    { scan with
      candidates := if scan.inFlow then scan.candidates.drop 1 else scan.candidates
      keyAllowed := false }.take 1 token

def flowEntry? (scan : Scan) : Option Scan :=
  scan.dropCandidate?.map fun scan => { scan with keyAllowed := true }.take 1 .flowEntry

def beginLine? (scan : Scan) (token : Token) : Option Scan :=
  if scan.inFlow then some scan
  else if scan.keyAllowed then some (scan.rollTo scan.cursor.column scan.tokenCount token)
  else none

def blockEntry? (scan : Scan) : Option Scan := do
  let scan ← (← scan.beginLine? .blockSequenceStart).dropCandidate?
  return { scan with keyAllowed := true }.take 1 .blockEntry

def key? (scan : Scan) : Option Scan := do
  let scan ← (← scan.beginLine? .blockMappingStart).dropCandidate?
  return { scan with keyAllowed := !scan.inFlow }.take 1 .key

def value? (scan : Scan) : Option Scan :=
  match scan.candidates with
  | some candidate :: outer =>
      let scan := (scan.insert candidate.tokensBefore .key).rollTo candidate.column
        candidate.tokensBefore .blockMappingStart
      some ({ scan with candidates := none :: outer, keyAllowed := false }.take 1 .value)
  | _ =>
      (scan.beginLine? .blockMappingStart).map fun scan =>
        { scan with keyAllowed := !scan.inFlow }.take 1 .value

/-- Go on after a part that may be a key or stand in front of one. -/
def afterPart? (scan : Scan) (part? : Option (Token × Cursor)) : Option Scan := do
  let scan ← scan.noteCandidate?
  let (token, cursor) ← part?
  return { scan with cursor, keyAllowed := false }.push token

def plain? (limit : Nat) (scan : Scan) : Option Scan := do
  let scan ← scan.noteCandidate?
  let scalar ← readPlain? scan.inFlow (scan.indent + 1) limit scan.cursor
  return { scan with cursor := scalar.cursor, keyAllowed := scalar.lineEnded }.push
    (.scalar scalar.text true)

def block? (limit : Nat) (scan : Scan) (folded : Bool) : Option Scan := do
  let scan ← scan.dropCandidate?
  let (text, cursor) ← readBlock? folded scan.indent limit (scan.cursor.skip 1)
  return { scan with cursor, keyAllowed := true }.push (.scalar text false)

def quoted? (limit : Nat) (scan : Scan) (quote : Char) : Option Scan :=
  scan.afterPart? ((readQuoted? quote limit (scan.cursor.skip 1)).map fun (text, cursor) =>
    (.scalar text false, cursor))

/-- The characters that no plain scalar begins with. -/
def indicators : List Char :=
  ['-', '?', ':', ',', '[', ']', '\x7b', '\x7d', '#', '&', '*', '!', '|', '>', '\'', '"', '%',
    '@', '`']

def startsPlain (inFlow : Bool) (c : Char) (rest : List Char) : Bool :=
  !(isBlankChar c || indicators.contains c) || (c = '-' && !startsBlank rest) ||
    (!inFlow && (c = '?' || c = ':') && !wordEnds rest)

def next? (limit : Nat) (scan : Scan) (c : Char) (rest : List Char) : Option Scan :=
  let atLineStart := scan.cursor.column = 0
  let flow := scan.inFlow
  if atLineStart && c = '%' then do
    let scan ← scan.leaveBlocks?
    let (directive, cursor) ← Directive.read? limit (scan.cursor.skip 1)
    return { scan with cursor }.push (.directive directive)
  else if atLineStart && startsDocumentMark (c :: rest) then
    scan.leaveBlocks?.map (·.take 3 (if c = '-' then .documentStart else .documentEnd))
  else if c = '[' then scan.openFlow? .flowSequenceStart
  else if c = '\x7b' then scan.openFlow? .flowMappingStart
  else if c = ']' then scan.closeFlow? .flowSequenceEnd
  else if c = '\x7d' then scan.closeFlow? .flowMappingEnd
  else if c = ',' then scan.flowEntry?
  else if c = '-' && wordEnds rest then scan.blockEntry?
  else if c = '?' && (flow || wordEnds rest) then scan.key?
  else if c = ':' && (flow || wordEnds rest) then scan.value?
  else if c = '*' then
    scan.afterPart? ((readAnchorName? (scan.cursor.skip 1)).map fun (name, cursor) =>
      (.aliasOf name, cursor))
  else if c = '&' then
    scan.afterPart? ((readAnchorName? (scan.cursor.skip 1)).map fun (name, cursor) =>
      (.anchor name, cursor))
  else if c = '!' then
    scan.afterPart? ((TagMark.read? flow limit scan.cursor).map fun (mark, cursor) =>
      (.tag mark, cursor))
  else if c = '|' && !flow then scan.block? limit false
  else if c = '>' && !flow then scan.block? limit true
  else if c = '\'' || c = '"' then scan.quoted? limit c
  else if startsPlain flow c rest then scan.plain? limit
  else none

def run? (limit : Nat) : (fuel : Nat) → Scan → Option (List Token)
  | 0, _ => none
  | fuel + 1, scan =>
      match (skipToToken limit scan).dropStale? with
      | none => none
      | some scan =>
          let scan := scan.unrollTo scan.cursor.column
          match scan.cursor.rest with
          | [] => scan.leaveBlocks?.map fun scan => scan.tokens.reverse
          | c :: rest =>
              match scan.next? limit c rest with
              | some scan => run? limit fuel scan
              | none => none

end Scan

def Token.ofText? (text : List Char) : Option (List Token) :=
  let limit := text.length + 1
  if text.all isAllowed then Scan.run? limit limit (.start text) else none

end LogPattern.Yaml
