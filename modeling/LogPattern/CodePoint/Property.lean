import LogPattern.CodePoint.Category
import LogPattern.CodePoint.Extender
import LogPattern.CodePoint.PropertyTable
import LogPattern.CodePoint.Script
import LogPattern.CodePoint.WhiteSpace

/-!
# Properties by name

Categories, scripts and properties that a character has or has not.  Names are
compared without regard to case, spaces, hyphens, underscores and a leading `is`.
-/

namespace LogPattern

namespace PropertyTable

def letters : CodeSet := (Category.groupMembers 'l').union letterNumbers

def lowercase : CodeSet := lowercaseLetters.union otherLowercase

def uppercase : CodeSet := uppercaseLetters.union otherUppercase

def capitals : CodeSet := uppercaseLetters.union titlecaseLetters

def cased : CodeSet := (lowercase.union uppercase).union titlecaseLetters

/-- Characters that the case of their neighbours passes over. -/
def caseIgnorable : CodeSet :=
  (Category.unionOf
    [.nonspacingMark, .enclosingMark, .format, .modifierLetter, .modifierSymbol]).union
    caseIgnorableExtras

def changedByLowercasing : CodeSet :=
  (capitals.union lowercasingExtras).difference lowercasingExceptions

def changedByUppercasing : CodeSet :=
  (lowercase.union uppercasingExtras).difference uppercasingExceptions

def changedByTitlecasing : CodeSet :=
  (changedByUppercasing.union titlecasingExtras).difference titlecasingExceptions

def changedByFolding : CodeSet := (capitals.union foldingExtras).difference foldingExceptions

def identifierStart : CodeSet :=
  (letters.union identifierStartExtras).difference identifierStartExceptions

def identifierContinue : CodeSet :=
  (identifierStart.union (Category.unionOf
    [.nonspacingMark, .spacingMark, .decimalNumber, .connectorPunctuation])).union
    identifierContinueExtras

def bases : CodeSet :=
  ((Category.groupMembers 'c').union
    ((lineSeparators.union paragraphSeparators).union graphemeExtenders)).complement

end PropertyTable

open PropertyTable in
def binaryProperties : List NamedSet := [
  ⟨["alphabetic", "alpha"], letters.union otherAlphabetic⟩,
  ⟨["asciihexdigit", "ahex"], asciiHexDigits⟩,
  ⟨["bidicontrol", "bidic"], bidiControls⟩,
  ⟨["bidimirrored", "bidim"], mirrored⟩,
  ⟨["caseignorable", "ci"], caseIgnorable⟩,
  ⟨["cased"], cased⟩,
  ⟨["changeswhencasefolded", "cwcf"], changedByFolding⟩,
  ⟨["changeswhencasemapped", "cwcm"],
    (changedByLowercasing.union changedByUppercasing).union changedByTitlecasing⟩,
  ⟨["changeswhenlowercased", "cwl"], changedByLowercasing⟩,
  ⟨["changeswhentitlecased", "cwt"], changedByTitlecasing⟩,
  ⟨["changeswhenuppercased", "cwu"], changedByUppercasing⟩,
  ⟨["dash"], dashes⟩,
  ⟨["defaultignorablecodepoint", "di"], ignorable⟩,
  ⟨["deprecated", "dep"], deprecatedCharacters⟩,
  ⟨["diacritic", "dia"], diacritics⟩,
  ⟨["emoji"], emoji⟩,
  ⟨["emojicomponent", "ecomp"], emojiComponents⟩,
  ⟨["emojimodifier", "emod"], emojiModifiers⟩,
  ⟨["emojimodifierbase", "ebase"], emojiBases⟩,
  ⟨["emojipresentation", "epres"], emojiByDefault⟩,
  ⟨["extendedpictographic", "extpict"], pictographs⟩,
  ⟨["extender", "ext"], extenders⟩,
  ⟨["graphemebase", "grbase"], bases⟩,
  ⟨["graphemeextend", "grext"], graphemeExtenders⟩,
  ⟨["hexdigit", "hex"], hexDigits⟩,
  ⟨["idsbinaryoperator", "idsb"], binaryDescriptions⟩,
  ⟨["idstrinaryoperator", "idst"], trinaryDescriptions⟩,
  ⟨["idcontinue", "idc"], identifierContinue⟩,
  ⟨["idstart", "ids"], identifierStart⟩,
  ⟨["ideographic", "ideo"], ideographs⟩,
  ⟨["joincontrol", "joinc"], joiners⟩,
  ⟨["logicalorderexception", "loe"], orderExceptions⟩,
  ⟨["lowercase", "lower"], lowercase⟩,
  ⟨["math"], mathSymbols.union otherMath⟩,
  ⟨["noncharactercodepoint", "nchar"], noncharacters⟩,
  ⟨["patternsyntax", "patsyn"], patternSyntax⟩,
  ⟨["patternwhitespace", "patws"], patternWhiteSpace⟩,
  ⟨["quotationmark", "qmark"], quotationMarks⟩,
  ⟨["radical"], radicals⟩,
  ⟨["regionalindicator", "ri"], regionalIndicators⟩,
  ⟨["sentenceterminal", "sterm"], sentenceEnds⟩,
  ⟨["softdotted", "sd"], softDotted⟩,
  ⟨["terminalpunctuation", "term"], unitEnds⟩,
  ⟨["unifiedideograph", "uideo"], unifiedIdeographs⟩,
  ⟨["uppercase", "upper"], uppercase⟩,
  ⟨["variationselector", "vs"], variationSelectors⟩,
  ⟨["whitespace", "wspace", "space"], whiteSpace⟩,
  ⟨["xidcontinue", "xidc"], identifierContinue.difference closedContinueExceptions⟩,
  ⟨["xidstart", "xids"], identifierStart.difference closedStartExceptions⟩]

namespace Category

def longNames : Category → List String
  | uppercaseLetter => ["uppercaseletter"]
  | lowercaseLetter => ["lowercaseletter"]
  | titlecaseLetter => ["titlecaseletter"]
  | modifierLetter => ["modifierletter"]
  | otherLetter => ["otherletter"]
  | nonspacingMark => ["nonspacingmark"]
  | spacingMark => ["spacingmark"]
  | enclosingMark => ["enclosingmark"]
  | decimalNumber => ["decimalnumber", "digit"]
  | letterNumber => ["letternumber"]
  | otherNumber => ["othernumber"]
  | connectorPunctuation => ["connectorpunctuation"]
  | dashPunctuation => ["dashpunctuation"]
  | openPunctuation => ["openpunctuation"]
  | closePunctuation => ["closepunctuation"]
  | initialPunctuation => ["initialpunctuation"]
  | finalPunctuation => ["finalpunctuation"]
  | otherPunctuation => ["otherpunctuation"]
  | mathSymbol => ["mathsymbol"]
  | currencySymbol => ["currencysymbol"]
  | modifierSymbol => ["modifiersymbol"]
  | otherSymbol => ["othersymbol"]
  | spaceSeparator => ["spaceseparator"]
  | lineSeparator => ["lineseparator"]
  | paragraphSeparator => ["paragraphseparator"]
  | control => ["control", "cntrl"]
  | format => ["format"]
  | surrogate => ["surrogate"]
  | privateUse => ["privateuse"]
  | unassigned => ["unassigned"]

def groupNames : List (String × Char) :=
  [("l", 'l'), ("letter", 'l'), ("m", 'm'), ("mark", 'm'), ("combiningmark", 'm'),
    ("n", 'n'), ("number", 'n'), ("p", 'p'), ("punctuation", 'p'), ("punct", 'p'),
    ("s", 's'), ("symbol", 's'), ("z", 'z'), ("separator", 'z'), ("c", 'c'), ("other", 'c')]

/-- The category with a name.  Halves of pairs of units are no characters. -/
def named? (name : String) : Option Category :=
  all.find? fun category =>
    category ≠ surrogate && (category.letters = name || category.longNames.contains name)

def membersNamed? (name : String) : Option CodeSet :=
  match named? name with
  | some category => some category.members
  | none =>
      match groupNames.lookup name with
      | some letter => some (groupMembers letter)
      | none =>
          if name = "lc" || name = "casedletter" then
            some (unionOf [uppercaseLetter, lowercaseLetter, titlecaseLetter])
          else if name = "any" then some (.range 0 maxCodePoint)
          else if name = "assigned" then some unassigned.members.complement
          else if name = "ascii" then some (.range 0 0x7F)
          else none

end Category

namespace PropertyName

/-- A name without a leading `is`, whatever its case. -/
def dropIs : List Char → List Char × Bool
  | a :: b :: rest =>
      if a.toLower = 'i' && b.toLower = 's' then (rest, true) else (a :: b :: rest, false)
  | name => (name, false)

/--
The form of a name in which names are compared.  Only what `is` leaves of the name
`isc` would be the name of something else, so this one stays as it is.
-/
def normal (name : List Char) : String :=
  let (rest, hadIs) := dropIs name
  let kept := rest.filter fun c => c.toNat < 0x80 && c != ' ' && c != '_' && c != '-'
  let small := String.ofList (kept.map Char.toLower)
  if hadIs && small = "c" then "isc" else small

end PropertyName

/-- The names of categories that are short names of properties too, and mean the category. -/
def categoryFirst : List String := ["cf", "sc", "lc"]

/-- The code points with what a name stands for: a property, a category or a script. -/
def membersNamed? (name : List Char) : Option CodeSet :=
  let name := PropertyName.normal name
  let property? := if categoryFirst.contains name then none
    else NamedSet.find? binaryProperties name
  property?.orElse fun _ =>
    (Category.membersNamed? name).orElse fun _ => NamedSet.find? scripts name

def membersValued? (property value : List Char) : Option CodeSet :=
  let property := PropertyName.normal property
  let value := PropertyName.normal value
  if property = "gc" || property = "generalcategory" then Category.membersNamed? value
  else if property = "sc" || property = "script" then NamedSet.find? scripts value
  else none

end LogPattern
