import LogPattern.CodePoint.Category.Letter
import LogPattern.CodePoint.Category.Mark
import LogPattern.CodePoint.Category.Number
import LogPattern.CodePoint.Category.Other
import LogPattern.CodePoint.Category.Punctuation
import LogPattern.CodePoint.Category.Symbol
import LogPattern.CodePoint.Word

/-!
# General categories

Every code point has exactly one general category.  Related categories form a group,
whose letter is the first of the two letters of its categories.
-/

namespace LogPattern

inductive Category where
  | uppercaseLetter | lowercaseLetter | titlecaseLetter | modifierLetter | otherLetter
  | nonspacingMark | spacingMark | enclosingMark
  | decimalNumber | letterNumber | otherNumber
  | connectorPunctuation | dashPunctuation | openPunctuation | closePunctuation
  | initialPunctuation | finalPunctuation | otherPunctuation
  | mathSymbol | currencySymbol | modifierSymbol | otherSymbol
  | spaceSeparator | lineSeparator | paragraphSeparator
  | control | format | surrogate | privateUse | unassigned
deriving DecidableEq, Repr

namespace Category

/-- All categories but the last, which is what they leave. -/
def assigned : List Category :=
  [uppercaseLetter, lowercaseLetter, titlecaseLetter, modifierLetter, otherLetter,
    nonspacingMark, spacingMark, enclosingMark,
    decimalNumber, letterNumber, otherNumber,
    connectorPunctuation, dashPunctuation, openPunctuation, closePunctuation,
    initialPunctuation, finalPunctuation, otherPunctuation,
    mathSymbol, currencySymbol, modifierSymbol, otherSymbol,
    spaceSeparator, lineSeparator, paragraphSeparator,
    control, format, surrogate, privateUse]

def all : List Category := assigned ++ [unassigned]

def letters : Category → String
  | uppercaseLetter => "lu" | lowercaseLetter => "ll" | titlecaseLetter => "lt"
  | modifierLetter => "lm" | otherLetter => "lo"
  | nonspacingMark => "mn" | spacingMark => "mc" | enclosingMark => "me"
  | decimalNumber => "nd" | letterNumber => "nl" | otherNumber => "no"
  | connectorPunctuation => "pc" | dashPunctuation => "pd" | openPunctuation => "ps"
  | closePunctuation => "pe" | initialPunctuation => "pi" | finalPunctuation => "pf"
  | otherPunctuation => "po"
  | mathSymbol => "sm" | currencySymbol => "sc" | modifierSymbol => "sk" | otherSymbol => "so"
  | spaceSeparator => "zs" | lineSeparator => "zl" | paragraphSeparator => "zp"
  | control => "cc" | format => "cf" | surrogate => "cs" | privateUse => "co"
  | unassigned => "cn"

def assignedMembers : Category → CodeSet
  | uppercaseLetter => uppercaseLetters
  | lowercaseLetter => lowercaseLetters
  | titlecaseLetter => titlecaseLetters
  | modifierLetter => modifierLetters
  | otherLetter => otherLetters
  | nonspacingMark => nonspacingMarks
  | spacingMark => spacingMarks
  | enclosingMark => enclosingMarks
  | decimalNumber => decimalDigits
  | letterNumber => letterNumbers
  | otherNumber => otherNumbers
  | connectorPunctuation => LogPattern.connectorPunctuation
  | dashPunctuation => LogPattern.dashPunctuation
  | openPunctuation => LogPattern.openPunctuation
  | closePunctuation => LogPattern.closePunctuation
  | initialPunctuation => LogPattern.initialPunctuation
  | finalPunctuation => LogPattern.finalPunctuation
  | otherPunctuation => LogPattern.otherPunctuation
  | mathSymbol => mathSymbols
  | currencySymbol => currencySymbols
  | modifierSymbol => modifierSymbols
  | otherSymbol => otherSymbols
  | spaceSeparator => spaceSeparators
  | lineSeparator => lineSeparators
  | paragraphSeparator => paragraphSeparators
  | control => controlCharacters
  | format => formatCharacters
  | surrogate => surrogates
  | privateUse => LogPattern.privateUse
  | unassigned => .empty

def unionOf (categories : List Category) : CodeSet :=
  categories.foldl (fun set category => set.union category.assignedMembers) .empty

def assignedPoints : CodeSet := unionOf assigned

def members : Category → CodeSet
  | unassigned => assignedPoints.complement
  | category => category.assignedMembers

def groupMembers (letter : Char) : CodeSet :=
  (all.filter (·.letters.startsWith letter)).foldl
    (fun set category => set.union category.members) .empty

end Category

end LogPattern
