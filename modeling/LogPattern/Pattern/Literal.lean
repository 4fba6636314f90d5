/-!
# Literal text

Outside tokens a pattern text means itself, so it is written into the regular
expression with a backslash before every special character.  Two signs keep a
meaning: a caret at the very start and a dollar sign at the very end tie the match
to the ends of the line, and `\$` at the very end is a dollar sign.
-/

namespace LogPattern

def specialCharacters : List Char :=
  ['\\', '.', '+', '*', '?', '(', ')', '|', '[', ']', '\x7b', '\x7d', '^', '$', '#', '&', '-', '~']

def escapeChar (c : Char) : List Char := if specialCharacters.contains c then ['\\', c] else [c]

/-- The regular expression that matches exactly the given text. -/
def escapeText (text : List Char) : List Char := text.flatMap escapeChar

/-- How a literal ends. -/
inductive Ending where
  | plain
  | anchor
  | dollar
deriving DecidableEq, Repr

namespace Ending

def regexText : Ending → List Char
  | plain => []
  | anchor => ['$']
  | dollar => ['\\', '$']

end Ending

structure AnchoredLiteral where
  startAnchor : Bool
  body : List Char
  ending : Ending
deriving DecidableEq, Repr

/-- Split the signs at the end from a literal that ends the pattern text. -/
def splitEnding (text : List Char) : List Char × Ending :=
  match text.reverse with
  | '$' :: '\\' :: body => (body.reverse, .dollar)
  | '$' :: body => (body.reverse, .anchor)
  | _ => (text, .plain)

namespace AnchoredLiteral

/-- Read the anchors of a literal; `first` and `last` say where it stands. -/
def ofText (text : List Char) (first last : Bool) : AnchoredLiteral :=
  let (startAnchor, text) :=
    match first, text with
    | true, '^' :: rest => (true, rest)
    | _, text => (false, text)
  let (body, ending) := if last then splitEnding text else (text, .plain)
  ⟨startAnchor, body, ending⟩

def regexText (literal : AnchoredLiteral) : List Char :=
  (if literal.startAnchor then ['^'] else []) ++ escapeText literal.body ++
    literal.ending.regexText

end AnchoredLiteral

end LogPattern
