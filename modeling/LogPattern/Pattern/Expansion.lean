import LogPattern.Pattern.Error
import LogPattern.Pattern.Group
import LogPattern.Pattern.Literal
import LogPattern.Pattern.Token

/-!
# Expansion

A pattern text becomes the text of a regular expression: literals are escaped, and
every token is replaced by a group around the expansion of the fragment it names.
A token with a field opens a capturing group and enters its field into the schema,
so the fields are listed in the order of their openers.

References may go only so deep and never in a circle, and the text may only grow
so long: short fragments that mention others twice could otherwise expand to
exponential length.
-/

namespace LogPattern

def maxExpandedLength : Nat := 1024 * 1024

/-- A field of a compiled pattern. -/
structure Field where
  name : String
  token : String
  hint : Option String
deriving DecidableEq, Repr

abbrev Lookup := String → Option String

/-- An expansion under way: the text so far and the fields so far. -/
structure Expansion where
  text : String
  fields : Array Field
deriving Repr

namespace Expansion

def start : Expansion := ⟨"", #[]⟩

def append (expansion : Expansion) (text : List Char) : Expansion :=
  { expansion with text := expansion.text ++ String.ofList text }

/--
Refuse an expansion that has grown too long.  `chain` are the names being expanded,
the innermost first.
-/
def checkLength (chain : List String) (expansion : Expansion) :
    Except CompileError Expansion :=
  if expansion.text.utf8ByteSize > maxExpandedLength then
    .error (.invalidRegex (.tooLong maxExpandedLength chain.getLast?))
  else .ok expansion

def openToken (expansion : Expansion) (token : Token) : Expansion :=
  match token.field with
  | none => expansion.append ['(', '?', ':']
  | some field =>
      let opener := "(?P<f".toList ++ (toString expansion.fields.size).toList ++ ['>']
      { expansion.append opener with
        fields := expansion.fields.push ⟨field, token.raw, token.hint⟩ }

/--
Expand a token.

`depthLeft` is how many more names may be on the way, out of `maxDepth`; `position`
is the offset of the top-level token; `chain` are the names being expanded, the
innermost first.
-/
def expandToken (lookup : Lookup) (maxDepth : Nat) (position : Nat) :
    (depthLeft : Nat) → (chain : List String) → Token → Expansion →
    Except CompileError Expansion
  | depthLeft, chain, token, expansion =>
      match if isPatternName token.name then lookup token.name else none with
      | none => .error (.unknownReference token.name position)
      | some fragment =>
          if chain.contains token.name then
            .error (.cyclicReference (token.name :: chain).reverse)
          else
            match depthLeft with
            | 0 => .error (.tooDeep maxDepth token.name)
            | depthLeft + 1 =>
                let chain := token.name :: chain
                let expanded :=
                  (segments fragment).foldlM (fun expansion segment =>
                    match segment with
                    | .literal text =>
                        (expansion.append (neutralizeGroups text.toList)).checkLength chain
                    | .token inner =>
                        (expandToken lookup maxDepth position depthLeft chain inner
                          expansion).bind (checkLength chain)) (expansion.openToken token)
                expanded.map (·.append [')'])

/-- Expand the segments of a pattern text; `first` says that none has come before. -/
def expandSegments (lookup : Lookup) (maxDepth : Nat) (first : Bool) :
    List Segment → Expansion → Except CompileError Expansion
  | [], expansion => .ok expansion
  | .literal text :: rest, expansion =>
      let literal := AnchoredLiteral.ofText text.toList first rest.isEmpty
      match (expansion.append literal.regexText).checkLength [] with
      | .error e => .error e
      | .ok expansion => expandSegments lookup maxDepth false rest expansion
  | .token token :: rest, expansion =>
      match expandToken lookup maxDepth token.offset maxDepth [] token expansion with
      | .error e => .error e
      | .ok expansion => expandSegments lookup maxDepth false rest expansion

def ofText (lookup : Lookup) (maxDepth : Nat) (text : String) :
    Except CompileError Expansion :=
  if text.isEmpty then .error .emptyPattern
  else expandSegments lookup maxDepth true (segments text) .start

end Expansion

end LogPattern
