import LogPattern.CodePoint.CaseFolding
import LogPattern.CodePoint.Property
import LogPattern.Regex.Expr
import LogPattern.Regex.Fault
import LogPattern.Regex.Syntax

/-!
# Applying flags

Flags hold from the directive that sets them to the end of the group they stand
in, also across the branches of a choice.  With Unicode switched off a class is a
set of bytes, and only sets of ASCII characters are safe in a text.
-/

namespace LogPattern.Regex

structure Modes where
  ignoreCase : Bool
  multiLine : Bool
  dotMatchesLineFeed : Bool
  swapGreed : Bool
  unicode : Bool
  carriageReturns : Bool
deriving DecidableEq, Repr

namespace Modes

def initial : Modes := ⟨false, false, false, false, true, false⟩

def apply (modes : Modes) (change : FlagChange) : Modes where
  ignoreCase := (change.value? .ignoreCase).getD modes.ignoreCase
  multiLine := (change.value? .multiLine).getD modes.multiLine
  dotMatchesLineFeed := (change.value? .dotMatchesLineFeed).getD modes.dotMatchesLineFeed
  swapGreed := (change.value? .swapGreed).getD modes.swapGreed
  unicode := (change.value? .unicode).getD modes.unicode
  carriageReturns := (change.value? .carriageReturns).getD modes.carriageReturns

def top (modes : Modes) : Nat := if modes.unicode then maxCodePoint else 0xFF

def word (modes : Modes) : CodeSet := if modes.unicode then wordChars else asciiWordChars

end Modes

def foldAsciiCase (set : CodeSet) : CodeSet :=
  let upper := set.inter (.range 0x41 0x5A)
  let lower := set.inter (.range 0x61 0x7A)
  (set.union ⟨upper.ranges.map fun r => (r.1 + 32, r.2 + 32)⟩).union
    ⟨lower.ranges.map fun r => (r.1 - 32, r.2 - 32)⟩

namespace Modes

def fold (modes : Modes) (set : CodeSet) : CodeSet :=
  if !modes.ignoreCase then set
  else if modes.unicode then set.foldCase
  else foldAsciiCase set

/-- Without Unicode, a set beyond ASCII could match a part of a character. -/
def checkBytes (modes : Modes) (set : CodeSet) : Except Fault CodeSet :=
  if modes.unicode || set.isUpTo 0x7F then .ok set else .error .matchesPartsOfCharacters

def foldAndNegate (modes : Modes) (negated : Bool) (set : CodeSet) : Except Fault CodeSet :=
  let set := modes.fold set
  modes.checkBytes (if negated then set.complementUpTo modes.top else set)

def classCode (modes : Modes) (c : Char) (asByte : Bool) : Except Fault Nat :=
  if modes.unicode then .ok c.toNat
  else if asByte && c.toNat > 0x7F then .error .matchesPartsOfCharacters
  else if c.toNat > 0xFF then .error .needsUnicode
  else .ok c.toNat

end Modes

def NamedClass.members : NamedClass → CodeSet
  | alnum => ⟨[(0x30, 0x39), (0x41, 0x5A), (0x61, 0x7A)]⟩
  | alpha => ⟨[(0x41, 0x5A), (0x61, 0x7A)]⟩
  | ascii => .range 0 0x7F
  | blank => ⟨[(0x09, 0x09), (0x20, 0x20)]⟩
  | cntrl => ⟨[(0, 0x1F), (0x7F, 0x7F)]⟩
  | digit => .range 0x30 0x39
  | graph => .range 0x21 0x7E
  | lower => .range 0x61 0x7A
  | print => .range 0x20 0x7E
  | punct => ⟨[(0x21, 0x2F), (0x3A, 0x40), (0x5B, 0x60), (0x7B, 0x7E)]⟩
  | space => ⟨[(0x09, 0x0D), (0x20, 0x20)]⟩
  | upper => .range 0x41 0x5A
  | word => asciiWordChars
  | xdigit => ⟨[(0x30, 0x39), (0x41, 0x46), (0x61, 0x66)]⟩

def ShortClass.members (modes : Modes) : ShortClass → CodeSet
  | digit => if modes.unicode then decimalDigits else .range 0x30 0x39
  | space => if modes.unicode then whiteSpace else ⟨[(0x09, 0x0D), (0x20, 0x20)]⟩
  | word => modes.word

def shortSet (modes : Modes) (cls : ShortClass) (negated : Bool) : Except Fault CodeSet :=
  let set := cls.members modes
  modes.checkBytes (if negated then set.complementUpTo modes.top else set)

def PropertyQuery.members? : PropertyQuery → Option CodeSet
  | named name => membersNamed? name
  | valued property value => membersValued? property value

def propertySet (modes : Modes) (query : PropertyQuery) (negated : Bool) :
    Except Fault CodeSet :=
  if !modes.unicode then .error .needsUnicode
  else
    match query.members? with
    | none => .error .unknownProperty
    | some set => modes.foldAndNegate negated set

namespace ClassTree

mutual
def members (modes : Modes) : ClassTree → Except Fault CodeSet
  | .empty => .ok .empty
  | .char c asByte => (modes.classCode c asByte).map .single
  | .range low lowAsByte high highAsByte =>
      match modes.classCode low lowAsByte, modes.classCode high highAsByte with
      | .ok low, .ok high => .ok (.range low high)
      | .error fault, _ => .error fault
      | _, .error fault => .error fault
  | .named cls negated => modes.foldAndNegate negated cls.members
  | .short cls negated => shortSet modes cls negated
  | .property query negated => propertySet modes query negated
  | .bracketed negated inner =>
      match inner.members modes with
      | .error fault => .error fault
      | .ok set => modes.foldAndNegate negated set
  | .union items => membersOfAll modes .empty items
  | .operation op left right =>
      match left.members modes, right.members modes with
      | .ok left, .ok right =>
          let left := modes.fold left
          let right := modes.fold right
          .ok <| match op with
            | .intersection => left.inter right
            | .difference => left.difference right
            | .symmetricDifference => left.symmetricDifference right
      | .error fault, _ => .error fault
      | _, .error fault => .error fault

/-- The members of all items together with those of `found`. -/
def membersOfAll (modes : Modes) (found : CodeSet) : List ClassTree → Except Fault CodeSet
  | [] => .ok found
  | item :: rest =>
      match item.members modes with
      | .error fault => .error fault
      | .ok set => membersOfAll modes (found.union set) rest
end

end ClassTree

def charSet (modes : Modes) (c : Char) (asByte : Bool) : Except Fault CodeSet :=
  if !modes.unicode && asByte && c.toNat > 0x7F then .error .matchesPartsOfCharacters
  else if modes.ignoreCase && (if modes.unicode then hasCaseVariant c.toNat else c.isAlpha) then
    .ok (modes.fold (.single c.toNat))
  else .ok (.single c.toNat)

def dotSet (modes : Modes) : Except Fault CodeSet :=
  if !modes.unicode then .error .matchesPartsOfCharacters
  else if modes.dotMatchesLineFeed then .ok (.range 0 maxCodePoint)
  else if modes.carriageReturns then
    .ok ⟨[(0, 0x09), (0x0B, 0x0C), (0x0E, maxCodePoint)]⟩
  else .ok ⟨[(0, 0x09), (0x0B, maxCodePoint)]⟩

def Assertion.look (modes : Modes) : Assertion → Look
  | lineStart =>
      if !modes.multiLine then .textStart
      else if modes.carriageReturns then .lineStartOrReturn
      else .lineStart
  | lineEnd =>
      if !modes.multiLine then .textEnd
      else if modes.carriageReturns then .lineEndOrReturn
      else .lineEnd
  | textStart => .textStart
  | textEnd => .textEnd
  | wordBoundary => .wordBoundary modes.word
  | notWordBoundary => .notWordBoundary modes.word
  | wordStart => .wordStart modes.word
  | wordEnd => .wordEnd modes.word
  | wordStartHalf => .wordStartHalf modes.word
  | wordEndHalf => .wordEndHalf modes.word

def Atom.resolve (modes : Modes) : Atom → Except Fault Expr
  | .char c asByte => (charSet modes c asByte).map .chars
  | .dot => (dotSet modes).map .chars
  | .assertion kind => .ok (.look (kind.look modes))
  | .short cls negated => (shortSet modes cls negated).map .chars
  | .property query negated => (propertySet modes query negated).map .chars

def GroupKind.inside (modes : Modes) : GroupKind → Modes
  | .capture _ _ => modes
  | .plain change => modes.apply change

/-- A capturing group stays in the expression; any other is its content. -/
def GroupKind.wrap (content : Expr) : GroupKind → Expr
  | .capture index _ => .capture index content
  | .plain _ => content

namespace Tree

mutual
/-- Apply flags, from the given ones on; the answer has the flags after the tree. -/
def resolve (modes : Modes) : Tree → Except Fault (Expr × Modes)
  | .empty => .ok (.empty, modes)
  | .flags change => .ok (.empty, modes.apply change)
  | .one atom => (atom.resolve modes).map (·, modes)
  | .bracketed negated inner =>
      match inner.members modes with
      | .error fault => .error fault
      | .ok set => (modes.foldAndNegate negated set).map (.chars ·, modes)
  | .repeated counts greedy operand =>
      match operand.resolve modes with
      | .error fault => .error fault
      | .ok (operand, modes) =>
          .ok (.times counts.least counts.most (greedy != modes.swapGreed) operand, modes)
  | .group kind content =>
      match content.resolve (kind.inside modes) with
      | .error fault => .error fault
      | .ok (content, _) => .ok (kind.wrap content, modes)
  | .choice branches =>
      match resolveAll modes [] branches with
      | .error fault => .error fault
      | .ok (branches, modes) => .ok (.choice branches, modes)
  | .sequence items =>
      match resolveAll modes [] items with
      | .error fault => .error fault
      | .ok (items, modes) => .ok (.sequence items, modes)

/-- Apply flags to trees from left to right; `done` holds the results so far, last first. -/
def resolveAll (modes : Modes) (done : List Expr) :
    List Tree → Except Fault (List Expr × Modes)
  | [] => .ok (done.reverse, modes)
  | tree :: rest =>
      match tree.resolve modes with
      | .error fault => .error fault
      | .ok (e, modes) => resolveAll modes (e :: done) rest
end

def expr (tree : Tree) : Except Fault Expr := (tree.resolve .initial).map (·.1)

end Tree

end LogPattern.Regex
