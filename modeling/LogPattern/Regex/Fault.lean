/-!
# Why a text is no usable regular expression

Faults in the text itself come from the parser; the later ones arise when flags
are applied or when the search program would be too large.  Which fault a text has is
modelled, but not the words in which the parser describes it.
-/

namespace LogPattern.Regex

inductive Fault where
  | groupNotOpened
  | groupNotClosed
  | groupFlags
  | groupName
  | repeatedGroupName
  | lookAround
  | nothingToRepeat
  | repetitionCounts
  | escape
  | classNotClosed
  | classItem
  | classRange
  | nestedTooDeeply
  | unknownProperty
  | needsUnicode
  | matchesPartsOfCharacters
  | programTooLarge
deriving DecidableEq, Repr

/--
A mark in the place of the parser's own words about a fault, which are not modelled.
Where the true message quotes them, ours has the mark.
-/
def Fault.message (_ : Fault) : String := "<regex error>"

end LogPattern.Regex
