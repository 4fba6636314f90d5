import LogPattern.Text.Digit

/-!
# TOML values

Numbers, truth values and points in time are written without delimiters, so the whole
of a word is classified at once.
-/

namespace LogPattern.Toml

/-- A value.  Numbers with a fraction and points in time keep no more than their kind. -/
inductive Value where
  | string (value : String)
  | integer (value : Int)
  | float
  | bool (value : Bool)
  | moment
  | array (items : List Value)
  | table (members : List (String × Value))

/-- Underscores stand between two digits only. -/
def underscoresInside : List Char → Bool
  | [] => true
  | ['_'] => false
  | '_' :: '_' :: _ => false
  | _ :: rest => underscoresInside rest

/-- The number that digits give, with underscores between them if one likes. -/
def groupedDigits? (base : Nat) (word : List Char) : Option Nat :=
  if word.head? = some '_' || !underscoresInside word then none
  else digitsValue? base (word.filter (· != '_'))

/-- The number that decimal digits without leading zeros give. -/
def plainDecimal? (word : List Char) : Option Nat :=
  match word with
  | '0' :: _ :: _ => none
  | _ => groupedDigits? 10 word

def splitSign : List Char → Bool × List Char
  | '+' :: rest => (false, rest)
  | '-' :: rest => (true, rest)
  | word => (false, word)

def leastInteger : Int := -(Int.pow 2 127)

def greatestInteger : Int := Int.pow 2 128 - 1

def integer? (word : List Char) : Option Int :=
  let value? : Option Int :=
    match word with
    | '0' :: 'x' :: digits => (groupedDigits? 16 digits).map Int.ofNat
    | '0' :: 'o' :: digits => (groupedDigits? 8 digits).map Int.ofNat
    | '0' :: 'b' :: digits => (groupedDigits? 2 digits).map Int.ofNat
    | _ =>
        let (negative, digits) := splitSign word
        (plainDecimal? digits).map fun value => if negative then -(value : Int) else value
  value?.filter fun value => leastInteger ≤ value && value ≤ greatestInteger

/-- The exponent of a number: a letter, a sign if one likes, and digits. -/
def isExponent : List Char → Bool
  | 'e' :: rest => (groupedDigits? 10 (splitSign rest).2).isSome
  | 'E' :: rest => (groupedDigits? 10 (splitSign rest).2).isSome
  | _ => false

def isGroupedChar (c : Char) : Bool := isDecimalDigit c || c = '_'

/-- The word is a number with a fraction, an exponent, or both, or a special one. -/
def isFloat (word : List Char) : Bool :=
  let (_, unsigned) := splitSign word
  if unsigned = ['i', 'n', 'f'] || unsigned = ['n', 'a', 'n'] then true
  else
    let (whole, rest) := unsigned.span isGroupedChar
    (plainDecimal? whole).isSome &&
      match rest with
      | '.' :: rest =>
          let (fraction, rest) := rest.span isGroupedChar
          (groupedDigits? 10 fraction).isSome && (rest.isEmpty || isExponent rest)
      | rest => isExponent rest

def twoDigits? : List Char → Option (Nat × List Char)
  | a :: b :: rest => (digitsValue? 10 [a, b]).map (·, rest)
  | _ => none

def daysOfMonth (year month : Nat) : Nat :=
  if month = 2 then
    if year % 4 = 0 && (year % 100 != 0 || year % 400 = 0) then 29 else 28
  else if month = 4 || month = 6 || month = 9 || month = 11 then 30
  else 31

def afterDate? : List Char → Option (List Char)
  | a :: b :: c :: d :: '-' :: rest =>
      match digitsValue? 10 [a, b, c, d], twoDigits? rest with
      | some year, some (month, '-' :: rest) =>
          match twoDigits? rest with
          | some (day, rest) =>
              if 1 ≤ month && month ≤ 12 && 1 ≤ day && day ≤ daysOfMonth year month then some rest
              else none
          | none => none
      | _, _ => none
  | _ => none

/-- What follows the seconds of a time of day; they may be missing, or have a fraction. -/
def afterSeconds? : List Char → Option (List Char)
  | ':' :: rest =>
      match twoDigits? rest with
      | some (second, rest) =>
          if second > 60 then none
          else
            match rest with
            | '.' :: rest =>
                match rest with
                | c :: rest =>
                    if isDecimalDigit c then some (rest.dropWhile isDecimalDigit) else none
                | [] => none
            | rest => some rest
      | none => none
  | rest => some rest

def afterTime? (word : List Char) : Option (List Char) :=
  match twoDigits? word with
  | some (hour, ':' :: rest) =>
      match twoDigits? rest with
      | some (minute, rest) => if hour ≤ 23 && minute ≤ 59 then afterSeconds? rest else none
      | none => none
  | _ => none

/-- The word is an offset from universal time, or empty. -/
def isOffset (word : List Char) : Bool :=
  match word with
  | [] => true
  | ['Z'] => true
  | ['z'] => true
  | sign :: rest =>
      (sign = '+' || sign = '-') &&
        match twoDigits? rest with
        | some (hour, ':' :: rest) =>
            match twoDigits? rest with
            | some (minute, []) => hour ≤ 23 && minute ≤ 59
            | _ => false
        | _ => false

def isMoment (word : List Char) : Bool :=
  match afterDate? word with
  | some [] => true
  | some (mark :: time) =>
      (mark = 'T' || mark = 't' || mark = ' ') &&
        match afterTime? time with
        | some offset => isOffset offset
        | none => false
  | none => afterTime? word = some []

def scalar? (word : List Char) : Option Value :=
  if word = "true".toList then some (.bool true)
  else if word = "false".toList then some (.bool false)
  else
    match integer? word with
    | some value => some (.integer value)
    | none => if isFloat word then some .float else if isMoment word then some .moment else none

def isWordChar (c : Char) : Bool :=
  c.isAlphanum || c = '_' || c = '-' || c = '+' || c = '.' || c = ':'

/--
The word at the front of a text.  After a date, a time of day may follow behind a
single space.
-/
def readWord (text : List Char) : List Char × List Char :=
  let (word, rest) := text.span isWordChar
  match afterDate? word, rest with
  | some [], ' ' :: c :: later =>
      if isDecimalDigit c then
        let (time, rest) := (c :: later).span isWordChar
        (word ++ ' ' :: time, rest)
      else (word, rest)
  | _, _ => (word, rest)

end LogPattern.Toml
