import LogPattern.Text.Decimal
import LogPattern.Yaml.Node

/-!
# YAML content

The content of a document is what its nodes mean: a plain scalar may be a number, a
truth value or nothing at all, tags may say what a scalar is, and an alias means
what its node means.  Tags of one's own mean nothing here.
-/

namespace LogPattern.Yaml

/-- The meaning of a node.  Of numbers that are not natural only their kind is kept. -/
inductive Content where
  | null
  | bool
  | natural (value : Nat)
  | number
  | text (value : String)
  | list (items : List Content)
  | map (pairs : List (Content × Content))

inductive Whole where
  | natural (value : Nat)
  | negative
  /-- The number needs more than 64 bits. -/
  | wide

namespace Scalar

def isNull (text : String) : Bool := ["null", "Null", "NULL", "~"].contains text

def isBool (text : String) : Bool :=
  ["true", "True", "TRUE", "false", "False", "FALSE"].contains text

def hasLeadingZero (text : List Char) : Bool :=
  let unsigned := match text with
    | '+' :: rest => rest
    | '-' :: rest => rest
    | rest => rest
  match unsigned with
  | '0' :: c :: rest => (c :: rest).all isDecimalDigit
  | _ => false

/-- The number that a text without a sign gives, in decimal or after a mark of its base. -/
def magnitude? (text : List Char) : Option Nat :=
  match text with
  | '0' :: 'x' :: digits => digitsValue? 16 digits
  | '0' :: 'o' :: digits => digitsValue? 8 digits
  | '0' :: 'b' :: digits => digitsValue? 2 digits
  | digits => digitsValue? 10 digits

def whole? (text : List Char) : Option Whole :=
  if hasLeadingZero text then none
  else
    match text with
    | '-' :: rest =>
        (magnitude? rest).bind fun value =>
          if value ≤ Nat.pow 2 63 then some .negative
          else if value ≤ Nat.pow 2 127 then some .wide
          else none
    | _ =>
        let unsigned := match text with
          | '+' :: rest => rest
          | rest => rest
        (magnitude? unsigned).bind fun value =>
          if value < Nat.pow 2 64 then some (.natural value)
          else if value < Nat.pow 2 128 then some .wide
          else none

def isSpecialFloat (text : String) : Bool :=
  [".inf", ".Inf", ".INF", "+.inf", "+.Inf", "+.INF", "-.inf", "-.Inf", "-.INF", ".nan", ".NaN",
    ".NAN"].contains text

def isFloat (text : String) : Bool :=
  let unsigned := match text.toList with
    | '+' :: rest => rest
    | '-' :: rest => rest
    | rest => rest
  isSpecialFloat text ||
    ((Decimal.ofText? unsigned).map fun decimal => !decimal.overflows).getD false

/-- The content of a whole number; a wide one has none. -/
def wholeContent? : Whole → Option Content
  | .natural value => some (.natural value)
  | .negative => some .number
  | .wide => none

def plain? (text : String) : Option Content :=
  if text.isEmpty || isNull text then some .null
  else if isBool text then some .bool
  else
    match whole? text.toList with
    | some whole => wholeContent? whole
    | none =>
        if !hasLeadingZero text.toList && isFloat text then some .number else some (.text text)

def ownTag (name : String) : String := "tag:yaml.org,2002:" ++ name

def content? (tag : Option String) (plain : Bool) (text : String) : Option Content :=
  match tag with
  | none => if plain then plain? text else some (.text text)
  | some tag =>
      if tag = ownTag "bool" then if isBool text then some .bool else none
      else if tag = ownTag "int" then (whole? text.toList).bind wholeContent?
      else if tag = ownTag "float" then if isFloat text then some .number else none
      else if tag = ownTag "null" then if isNull text then some .null else none
      else some (.text text)

end Scalar

def isLocalTag (tag : Option String) : Bool := (tag.map (·.startsWith "!")).getD false

namespace Node

def tag? : Node → Option String
  | scalar tag _ _ => tag
  | sequence tag _ => tag
  | mapping tag _ => tag
  | anchored _ => none

mutual

/-- The number of places where a node, an alias or the end of a collection is written. -/
def places : Node → Nat
  | scalar _ _ _ => 1
  | anchored _ => 1
  | sequence _ items => 2 + placesOfItems items
  | mapping _ pairs => 2 + placesOfPairs pairs

def placesOfItems : List Node → Nat
  | [] => 0
  | item :: rest => places item + placesOfItems rest

def placesOfPairs : List (Node × Node) → Nat
  | [] => 0
  | (key, value) :: rest => places key + places value + placesOfPairs rest

end

end Node

/-- The number of times that aliases may be followed for every place of a document. -/
def aliasesPerPlace : Nat := 100

/-- The content of nodes, while the aliases that may still be followed are counted. -/
abbrev Meaning (α : Type) := StateT Nat Option α

namespace Meaning

def resolve (anchored : List (Nat × Node)) : Node → Meaning Node
  | .anchored number => fun left =>
      match left with
      | 0 => none
      | left + 1 => (anchored.lookup number).map (·, left)
  | node => fun left => some (node, left)

/-- The content of a node that has collections within each other up to a depth. -/
def content (anchored : List (Nat × Node)) : (depth : Nat) → Node → Meaning Content
  | depth, node => do
      let node ← resolve anchored node
      if isLocalTag node.tag? then failure
      else
        match depth, node with
        | _, .scalar tag plain text =>
            match Scalar.content? tag plain text with
            | some content => return content
            | none => failure
        | depth + 1, .sequence _ items => return .list (← items.mapM (content anchored depth))
        | depth + 1, .mapping _ pairs =>
            return .map (← pairs.mapM fun (key, value) => do
              let key ← content anchored depth key
              let value ← content anchored depth value
              return (key, value))
        | _, _ => failure

end Meaning

def Document.content? (document : Document) : Option Content :=
  ((Meaning.content document.anchored nestLimit document.root).run
    (aliasesPerPlace * document.root.places)).map (·.1)

/-- The content of a text; a text without a document has none. -/
def Content.ofText? (text : List Char) : Option Content :=
  match Document.ofText? text with
  | none => none
  | some none => some .null
  | some (some document) => document.content?

end LogPattern.Yaml
