import LogPattern.Regex.Escape

/-!
# Bracketed classes

Reading `[…]`: characters, ranges, escapes, named classes, nested classes and the
operators between them, which are of equal rank and group from the left.  Nested
classes are kept on a stack of open classes instead of on the reader's own stack.
-/

namespace LogPattern.Regex

def nestLimit : Nat := 250

namespace ClassTree

mutual
/-- The number of nested classes, unions and operations. -/
def depth : ClassTree → Nat
  | .bracketed _ inner => inner.depth + 1
  | .union items => depthOfAll 0 items + 1
  | .operation _ left right => max left.depth right.depth + 1
  | _ => 0

def depthOfAll (deepest : Nat) : List ClassTree → Nat
  | [] => deepest
  | item :: rest => depthOfAll (max deepest item.depth) rest
end

/-- The union of items that are listed last first. -/
def ofItems : List ClassTree → ClassTree
  | [] => .empty
  | [item] => item
  | items => .union items.reverse

def combine (pending : Option (ClassOperator × ClassTree)) (right : ClassTree) : ClassTree :=
  match pending with
  | none => right
  | some (op, left) => .operation op left right

end ClassTree

/-- A class whose closing bracket is still to come, and what its surroundings hold so far. -/
structure OpenClass where
  negated : Bool
  outerItems : List ClassTree
  outerPending : Option (ClassOperator × ClassTree)

/-- A class such as `[:alpha:]`, read after its opening bracket. -/
def readNamedClass (text : List Char) : Option (ClassTree × List Char) :=
  match text with
  | ':' :: rest =>
      let (negated, rest) :=
        match rest with
        | '^' :: rest => (true, rest)
        | rest => (false, rest)
      match rest.span (· != ':') with
      | (name, ':' :: ']' :: rest) =>
          (NamedClass.ofName? name).map fun cls => (.named cls negated, rest)
      | _ => none
  | _ => none

/-- Hyphens at the start of a class stand for themselves; `steps` is the length of the text. -/
def readLeadingHyphens (verbose : Bool) :
    (steps : Nat) → List ClassTree → List Char → List ClassTree × List Char
  | steps + 1, items, '-' :: rest =>
      readLeadingHyphens verbose steps (.char '-' false :: items) (skipBlank verbose rest)
  | _, items, text => (items, text)

/--
The start of a class after its opening bracket: negation, hyphens, and a closing
bracket that stands for itself because it comes first.
-/
def readClassStart (verbose : Bool) (text : List Char) :
    Except Fault (Bool × List ClassTree × List Char) :=
  let text := skipBlank verbose text
  let (negated, text) :=
    match text with
    | '^' :: rest => (true, skipBlank verbose rest)
    | text => (false, text)
  let (items, text) := readLeadingHyphens verbose text.length [] text
  match items, text with
  | _, [] => .error .classNotClosed
  | [], ']' :: rest =>
      let rest := skipBlank verbose rest
      if rest.isEmpty then .error .classNotClosed
      else .ok (negated, [.char ']' false], rest)
  | items, text => .ok (negated, items, text)

def readClassAtom (verbose : Bool) : List Char → Except Fault (Atom × List Char)
  | [] => .error .classNotClosed
  | '\\' :: rest => readEscape verbose rest
  | c :: rest => .ok (.char c false, rest)

/-- What an atom contributes to a class; a dot or an assertion has no members. -/
def Atom.asClassItem : Atom → Except Fault ClassTree
  | .char c asByte => .ok (.char c asByte)
  | .short cls negated => .ok (.short cls negated)
  | .property query negated => .ok (.property query negated)
  | .dot => .error .classItem
  | .assertion _ => .error .classItem

def rangeItem : Atom → Atom → Except Fault ClassTree
  | .char low lowAsByte, .char high highAsByte =>
      if low ≤ high then .ok (.range low lowAsByte high highAsByte) else .error .classRange
  | _, _ => .error .classRange

/--
One item of a class: a range if a hyphen follows that neither ends the class nor
belongs to a difference.
-/
def readClassItem (verbose : Bool) (text : List Char) :
    Except Fault (ClassTree × List Char) := do
  let (low, rest) ← readClassAtom verbose text
  match skipBlank verbose rest with
  | [] => .error .classNotClosed
  | '-' :: afterHyphen =>
      match peekPastBlank verbose afterHyphen with
      | some ']' => return (← low.asClassItem, '-' :: afterHyphen)
      | some '-' => return (← low.asClassItem, '-' :: afterHyphen)
      | _ =>
          match skipBlank verbose afterHyphen with
          | [] => .error .classNotClosed
          | afterHyphen =>
              let (high, rest) ← readClassAtom verbose afterHyphen
              return (← rangeItem low high, rest)
  | rest => return (← low.asClassItem, rest)

/--
Read the inside of open classes until the outermost is closed.

`current` is the innermost open class and `outer` holds those around it; `items`
are the items of the innermost class since its last operator, last first, and
`pending` is that operator with its left operand.  Every step consumes a
character, so the length of the text is enough for `steps`.
-/
def readClassFrom (verbose : Bool) :
    (steps : Nat) → (current : OpenClass) → (outer : List OpenClass) →
    (items : List ClassTree) → (pending : Option (ClassOperator × ClassTree)) →
    List Char → Except Fault (Tree × List Char)
  | 0, _, _, _, _, _ => .error .classNotClosed
  | steps + 1, current, outer, items, pending, text =>
      match skipBlank verbose text with
      | [] => .error .classNotClosed
      | '[' :: rest =>
          match readNamedClass rest with
          | some (item, rest) =>
              readClassFrom verbose steps current outer (item :: items) pending rest
          | none =>
              if outer.length ≥ nestLimit then .error .nestedTooDeeply
              else
                match readClassStart verbose rest with
                | .error fault => .error fault
                | .ok (negated, inner, rest) =>
                    readClassFrom verbose steps ⟨negated, items, pending⟩ (current :: outer)
                      inner none rest
      | ']' :: rest =>
          let inner := ClassTree.combine pending (ClassTree.ofItems items)
          match outer with
          | [] => .ok (.bracketed current.negated inner, rest)
          | next :: outer =>
              readClassFrom verbose steps next outer
                (.bracketed current.negated inner :: current.outerItems) current.outerPending rest
      | '&' :: '&' :: rest =>
          readClassFrom verbose steps current outer []
            (some (.intersection, ClassTree.combine pending (ClassTree.ofItems items))) rest
      | '-' :: '-' :: rest =>
          readClassFrom verbose steps current outer []
            (some (.difference, ClassTree.combine pending (ClassTree.ofItems items))) rest
      | '~' :: '~' :: rest =>
          readClassFrom verbose steps current outer []
            (some (.symmetricDifference, ClassTree.combine pending (ClassTree.ofItems items))) rest
      | text =>
          match readClassItem verbose text with
          | .error fault => .error fault
          | .ok (item, rest) =>
              readClassFrom verbose steps current outer (item :: items) pending rest

def readClass (verbose : Bool) (text : List Char) : Except Fault (Tree × List Char) :=
  match readClassStart verbose text with
  | .error fault => .error fault
  | .ok (negated, items, rest) =>
      readClassFrom verbose (rest.length + 1) ⟨negated, [], none⟩ [] items none rest

end LogPattern.Regex
