import LogPattern.CodePoint.Set

/-!
# White space

The characters with the property `White_Space`, and trimming, splitting and line
division by them.  Blank log lines, pattern files and settings all use this one notion.
-/

namespace LogPattern

def whiteSpace : CodeSet := ⟨[
  (0x9, 0xD), (0x20, 0x20), (0x85, 0x85), (0xA0, 0xA0), (0x1680, 0x1680), (0x2000, 0x200A),
  (0x2028, 0x2029), (0x202F, 0x202F), (0x205F, 0x205F), (0x3000, 0x3000)]⟩

def isWhite (c : Char) : Bool := whiteSpace.containsChar c

def trimLeft (text : List Char) : List Char := text.dropWhile isWhite

def trimRight (text : List Char) : List Char := (trimLeft text.reverse).reverse

def trim (text : List Char) : List Char := trimRight (trimLeft text)

def trimText (text : String) : String := String.ofList (trim text.toList)

def isBlank (text : String) : Bool := text.toList.all isWhite

def splitAtWhite (text : List Char) : Option (List Char × List Char) :=
  match text.span (fun c => !isWhite c) with
  | (_, []) => none
  | (word, _ :: rest) => some (word, rest)

def dropCarriageReturn (reversed : List Char) : List Char :=
  match reversed with
  | '\r' :: rest => rest
  | line => line

/--
The lines of the characters, without their ends.  A line ends at a line feed, and
a carriage return just before the line feed belongs to the end.  Text after the
last line feed is a line of its own when there is any.  `done` holds the finished
lines and `line` the characters of the one being read, both last first.
-/
def linesFrom (done : List (List Char)) (line : List Char) : List Char → List (List Char)
  | [] => (if line.isEmpty then done else line.reverse :: done).reverse
  | '\n' :: rest => linesFrom ((dropCarriageReturn line).reverse :: done) [] rest
  | c :: rest => linesFrom done (c :: line) rest

def linesOf (text : String) : List String := (linesFrom [] [] text.toList).map String.ofList

end LogPattern
