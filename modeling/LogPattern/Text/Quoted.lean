import LogPattern.CodePoint.Category
import LogPattern.CodePoint.Extender

/-!
# Quoted text

Text between double quotes, such that every character can be seen.  Quotes and
backslashes have a backslash before them, some control characters have a letter, and
other characters that cannot be printed are given by their code in braces.  A character
is printable by itself if it has a shape and does not extend the character before it;
of the spaces only the common one is.
-/

namespace LogPattern

def shapelessCategories : List Category :=
  [.control, .format, .surrogate, .privateUse, .unassigned, .spaceSeparator, .lineSeparator,
    .paragraphSeparator]

/-- The code points that cannot be printed by themselves, but for the common space. -/
def unprintable : CodeSet :=
  shapelessCategories.foldl (fun set category => set.union category.members) graphemeExtenders

def isPrintable (c : Char) : Bool := c = ' ' || !unprintable.containsChar c

namespace Text

def letterEscapes : List (Char × Char) :=
  [('\x00', '0'), ('\t', 't'), ('\r', 'r'), ('\n', 'n'), ('"', '"'), ('\\', '\\')]

def codeEscape (c : Char) : List Char :=
  '\\' :: 'u' :: '\x7b' :: Nat.toDigits 16 c.toNat ++ ['\x7d']

def quoteChar (c : Char) : List Char :=
  match letterEscapes.lookup c with
  | some letter => ['\\', letter]
  | none => if isPrintable c then [c] else codeEscape c

def quoted (text : String) : String :=
  String.ofList ('"' :: text.toList.flatMap quoteChar ++ ['"'])

end Text

end LogPattern
