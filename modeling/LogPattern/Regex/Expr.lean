import LogPattern.CodePoint.Word
import LogPattern.CodePoint.WhiteSpace

/-!
# Expressions

An expression is a syntax tree after flags have been applied: every class is a set
of code points, and every assertion says exactly what it looks at.
-/

namespace LogPattern.Regex

def asciiWordChars : CodeSet := ⟨[(0x30, 0x39), (0x41, 0x5A), (0x5F, 0x5F), (0x61, 0x7A)]⟩

/-- A place between two characters, known by its neighbours. -/
structure Place where
  before : Option Char
  after : Option Char
deriving DecidableEq, Repr

inductive Look where
  | textStart
  | textEnd
  | lineStart
  | lineEnd
  | lineStartOrReturn
  | lineEndOrReturn
  | wordBoundary (word : CodeSet)
  | notWordBoundary (word : CodeSet)
  | wordStart (word : CodeSet)
  | wordEnd (word : CodeSet)
  | wordStartHalf (word : CodeSet)
  | wordEndHalf (word : CodeSet)
deriving DecidableEq, Repr

namespace Look

def isIn (word : CodeSet) (neighbour : Option Char) : Bool := neighbour.any word.containsChar

def holds : Look → Place → Bool
  | textStart, at_ => at_.before.isNone
  | textEnd, at_ => at_.after.isNone
  | lineStart, at_ => at_.before.isNone || at_.before == some '\n'
  | lineEnd, at_ => at_.after.isNone || at_.after == some '\n'
  | lineStartOrReturn, at_ =>
      at_.before.isNone || at_.before == some '\n' ||
        (at_.before == some '\r' && at_.after != some '\n')
  | lineEndOrReturn, at_ =>
      at_.after.isNone || at_.after == some '\r' ||
        (at_.after == some '\n' && at_.before != some '\r')
  | wordBoundary word, at_ => isIn word at_.before != isIn word at_.after
  | notWordBoundary word, at_ => isIn word at_.before == isIn word at_.after
  | wordStart word, at_ => !isIn word at_.before && isIn word at_.after
  | wordEnd word, at_ => isIn word at_.before && !isIn word at_.after
  | wordStartHalf word, at_ => !isIn word at_.before
  | wordEndHalf word, at_ => !isIn word at_.after

end Look

inductive Expr where
  | empty
  | chars (set : CodeSet)
  | look (condition : Look)
  | capture (index : Nat) (content : Expr)
  | repeated (least : Nat) (most : Option Nat) (greedy : Bool) (operand : Expr)
  | choice (branches : List Expr)
  | sequence (items : List Expr)
deriving Inhabited, Repr

namespace Expr

mutual
def takesNothing : Expr → Bool
  | empty => true
  | chars _ => false
  | look _ => true
  | capture _ content => content.takesNothing
  | repeated _ _ _ operand => operand.takesNothing
  | choice branches => allTakeNothing branches
  | sequence items => allTakeNothing items

def allTakeNothing : List Expr → Bool
  | [] => true
  | e :: rest => e.takesNothing && allTakeNothing rest
end

mutual
/-- Some match of the expression may take no character, going by its shape. -/
def mayTakeNothing : Expr → Bool
  | empty => true
  | chars _ => false
  | look _ => true
  | capture _ content => content.mayTakeNothing
  | repeated least _ _ operand => least == 0 || operand.mayTakeNothing
  | choice branches => anyMayTakeNothing branches
  | sequence items => allMayTakeNothing items

def anyMayTakeNothing : List Expr → Bool
  | [] => false
  | e :: rest => e.mayTakeNothing || anyMayTakeNothing rest

def allMayTakeNothing : List Expr → Bool
  | [] => true
  | e :: rest => e.mayTakeNothing && allMayTakeNothing rest
end

mutual
/-- The greatest number of a capturing group, or `most` if that is more. -/
def lastCapture (most : Nat) : Expr → Nat
  | empty => most
  | chars _ => most
  | look _ => most
  | capture index content => content.lastCapture (max most index)
  | repeated _ _ _ operand => operand.lastCapture most
  | choice branches => lastCaptureOfAll most branches
  | sequence items => lastCaptureOfAll most items

def lastCaptureOfAll (most : Nat) : List Expr → Nat
  | [] => most
  | e :: rest => lastCaptureOfAll (e.lastCapture most) rest
end

/-- The number of capturing groups: the greatest group number that is left. -/
def captureCount (e : Expr) : Nat := e.lastCapture 0

/--
Repetition.  Repeating what takes nothing more than once changes nothing, no
repetitions are the empty expression, and one is the operand itself.  So a group
that may never be entered is no group of the expression.
-/
def times (least : Nat) (most : Option Nat) (greedy : Bool) (operand : Expr) : Expr :=
  let (least, most) :=
    if operand.takesNothing then (min least 1, some (min (most.getD 1) 1)) else (least, most)
  match least, most with
  | 0, some 0 => empty
  | 1, some 1 => operand
  | _, _ => repeated least most greedy operand

end Expr

end LogPattern.Regex
