/-!
# Syntax trees of regular expressions

What the text of an expression says, before flags are applied: literals, classes,
assertions, groups, repetitions, alternatives.  Alternatives are tried in order
and repetitions have a greedy and a lazy form, so a tree stands for a search
strategy and not only for a set of texts.
-/

namespace LogPattern.Regex

inductive Flag where
  | ignoreCase
  | multiLine
  | dotMatchesLineFeed
  | swapGreed
  | unicode
  | carriageReturns
  | verbose
deriving DecidableEq, Repr

/-- Flags with the values that a directive gives them, in order. -/
abbrev FlagChange := List (Flag × Bool)

def FlagChange.value? (change : FlagChange) (flag : Flag) : Option Bool :=
  (change.find? (·.1 = flag)).map (·.2)

/-- Zero-width conditions, before flags decide what a line and a word are. -/
inductive Assertion where
  | lineStart
  | lineEnd
  | textStart
  | textEnd
  | wordBoundary
  | notWordBoundary
  | wordStart
  | wordEnd
  | wordStartHalf
  | wordEndHalf
deriving DecidableEq, Repr

inductive ShortClass where
  | digit
  | space
  | word
deriving DecidableEq, Repr

/-- The classes written `[:name:]` inside brackets. -/
inductive NamedClass where
  | alnum | alpha | ascii | blank | cntrl | digit | graph | lower | print | punct
  | space | upper | word | xdigit
deriving DecidableEq, Repr

namespace NamedClass

def name : NamedClass → String
  | alnum => "alnum" | alpha => "alpha" | ascii => "ascii" | blank => "blank"
  | cntrl => "cntrl" | digit => "digit" | graph => "graph" | lower => "lower"
  | print => "print" | punct => "punct" | space => "space" | upper => "upper"
  | word => "word" | xdigit => "xdigit"

def all : List NamedClass :=
  [alnum, alpha, ascii, blank, cntrl, digit, graph, lower, print, punct, space, upper, word,
    xdigit]

def ofName? (text : List Char) : Option NamedClass := all.find? (·.name.toList = text)

end NamedClass

inductive PropertyQuery where
  | named (name : List Char)
  | valued (property value : List Char)
deriving DecidableEq, Repr

/--
One unit of an expression outside brackets.  `asByte` marks a character written
as exactly two hexadecimal digits, which names a byte when Unicode is switched off.
-/
inductive Atom where
  | char (c : Char) (asByte : Bool)
  | dot
  | assertion (kind : Assertion)
  | short (cls : ShortClass) (negated : Bool)
  | property (query : PropertyQuery) (negated : Bool)
deriving DecidableEq, Repr

inductive ClassOperator where
  | intersection
  | difference
  | symmetricDifference
deriving DecidableEq, Repr

inductive ClassTree where
  | empty
  | char (c : Char) (asByte : Bool)
  | range (low : Char) (lowAsByte : Bool) (high : Char) (highAsByte : Bool)
  | named (cls : NamedClass) (negated : Bool)
  | short (cls : ShortClass) (negated : Bool)
  | property (query : PropertyQuery) (negated : Bool)
  | bracketed (negated : Bool) (inner : ClassTree)
  | union (items : List ClassTree)
  | operation (op : ClassOperator) (left right : ClassTree)
deriving Repr

/-- How often a repetition applies its operand. -/
structure Counts where
  least : Nat
  most : Option Nat
deriving DecidableEq, Repr

/-- The kinds of group: numbered from 1 when they capture. -/
inductive GroupKind where
  | capture (index : Nat) (name : Option String)
  | plain (flags : FlagChange)
deriving DecidableEq, Repr

inductive Tree where
  | empty
  | flags (change : FlagChange)
  | one (atom : Atom)
  | bracketed (negated : Bool) (inner : ClassTree)
  | repeated (counts : Counts) (greedy : Bool) (operand : Tree)
  | group (kind : GroupKind) (content : Tree)
  | choice (branches : List Tree)
  | sequence (items : List Tree)
deriving Repr

end LogPattern.Regex
