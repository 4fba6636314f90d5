import LogPattern.CodePoint.WhiteSpace

/-!
# Verbose mode

In verbose mode white space and comments (from `#` to the end of the line) may
stand between the parts of an expression.  Outside verbose mode nothing is skipped.
-/

namespace LogPattern.Regex

/-- The text after white space and comments; `comment` says that one is being read. -/
def skipVerbose (comment : Bool) : List Char → List Char
  | [] => []
  | c :: rest =>
      if comment then skipVerbose (c != '\n') rest
      else if isWhite c then skipVerbose false rest
      else if c = '#' then skipVerbose true rest
      else c :: rest

def skipBlank (verbose : Bool) (text : List Char) : List Char :=
  if verbose then skipVerbose false text else text

@[simp] theorem skipBlank_false (text : List Char) : skipBlank false text = text := rfl

theorem length_skipVerbose_le (comment : Bool) (text : List Char) :
    (skipVerbose comment text).length ≤ text.length := by
  induction text generalizing comment with
  | nil => simp [skipVerbose]
  | cons c rest ih =>
      rw [skipVerbose]
      have htrue := ih true
      have hfalse := ih false
      have hend := ih (c != '\n')
      split
      · simp only [List.length_cons]; omega
      · split
        · simp only [List.length_cons]; omega
        · split
          · simp only [List.length_cons]; omega
          · simp

theorem length_skipBlank_le (verbose : Bool) (text : List Char) :
    (skipBlank verbose text).length ≤ text.length := by
  cases verbose with
  | false => simp
  | true => simpa [skipBlank] using length_skipVerbose_le false text

/--
The next character that counts, for deciding whether a hyphen makes a range.
One comment mark is passed over without looking for the end of its line.
-/
def peekPastBlank (verbose : Bool) (text : List Char) : Option Char :=
  if verbose then
    match text.dropWhile isWhite with
    | '#' :: rest => (rest.dropWhile isWhite).head?
    | rest => rest.head?
  else text.head?

/--
The characters up to a closing brace and the text after it, without what verbose
mode ignores.  `comment` says that a comment is being read, and `taken` holds the
characters so far, last first.
-/
def takeToBrace (verbose comment : Bool) (taken : List Char) :
    List Char → Option (List Char × List Char)
  | [] => none
  | c :: rest =>
      if comment then takeToBrace verbose (c != '\n') taken rest
      else if verbose && isWhite c then takeToBrace verbose false taken rest
      else if verbose && c = '#' then takeToBrace verbose true taken rest
      else if c = '}' then some (taken.reverse, rest)
      else takeToBrace verbose false (c :: taken) rest

end LogPattern.Regex
