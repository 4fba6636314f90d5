import LogPattern.Text.Digit

/-!
# Writing TOML strings

A string is written between double quotes if that needs no escape, else between
single quotes, else over several lines, and with escapes as the last resort.
-/

namespace LogPattern.Toml

structure StringTraits where
  /-- The longest runs of either quote. -/
  singleQuotes : Nat
  doubleQuotes : Nat
  backslash : Bool
  lineFeed : Bool
  /-- A control character other than a tab or a line feed. -/
  control : Bool
deriving DecidableEq, Repr

def isControl (c : Char) : Bool := c.toNat < 0x20 || c.toNat = 0x7F

/-- The length of the longest run of a character, of which `run` have just come. -/
def longestRunFrom (c : Char) (run longest : Nat) : List Char → Nat
  | [] => longest
  | d :: rest =>
      if d = c then longestRunFrom c (run + 1) (max longest (run + 1)) rest
      else longestRunFrom c 0 longest rest

def StringTraits.ofText (text : List Char) : StringTraits :=
  ⟨longestRunFrom '\'' 0 0 text, longestRunFrom '"' 0 0 text, text.contains '\\',
    text.contains '\n', text.any fun c => isControl c && c != '\t' && c != '\n'⟩

structure StringStyle where
  quote : Char
  escapes : Bool
  /-- There are three quotes on either side. -/
  several : Bool
deriving DecidableEq, Repr

def StringStyle.ofTraits (traits : StringTraits) : StringStyle :=
  if !traits.control && !traits.backslash && traits.doubleQuotes = 0 && !traits.lineFeed then
    ⟨'"', true, false⟩
  else if !traits.control && traits.singleQuotes = 0 && !traits.lineFeed then ⟨'\'', false, false⟩
  else if !traits.control && !traits.backslash && traits.doubleQuotes ≤ 2 then ⟨'"', true, true⟩
  else if !traits.control && traits.singleQuotes ≤ 2 then ⟨'\'', false, true⟩
  else ⟨'"', true, traits.lineFeed⟩

def letterEscapes : List (Char × Char) :=
  [('\x08', 'b'), ('\t', 't'), ('\n', 'n'), ('\x0c', 'f'), ('\r', 'r')]

def codeEscape (c : Char) : List Char :=
  ['\\', 'u', '0', '0', capitalHexDigits.getD (c.toNat / 16) '0',
    capitalHexDigits.getD (c.toNat % 16) '0']

/--
The characters between double quotes, after `run` quotes that stand for themselves.
Only so many such quotes may follow each other.
-/
def escapedFrom (several : Bool) (run : Nat) : List Char → List Char
  | [] => []
  | c :: rest =>
      if c = '"' then
        if run < (if several then 2 else 0) then '"' :: escapedFrom several (run + 1) rest
        else '\\' :: '"' :: escapedFrom several 0 rest
      else if c = '\\' then '\\' :: '\\' :: escapedFrom several 0 rest
      else if c = '\n' && several then '\n' :: escapedFrom several 0 rest
      else if isControl c then
        match letterEscapes.lookup c with
        | some letter => '\\' :: letter :: escapedFrom several 0 rest
        | none => codeEscape c ++ escapedFrom several 0 rest
      else c :: escapedFrom several 0 rest

def quoted (text : String) : String :=
  let traits := StringTraits.ofText text.toList
  let style := StringStyle.ofTraits traits
  let quotes := List.replicate (if style.several then 3 else 1) style.quote
  let break_ := if style.several && traits.lineFeed then ['\n'] else []
  let body := if style.escapes then escapedFrom style.several 0 text.toList else text.toList
  String.ofList (quotes ++ break_ ++ body ++ quotes)

/-- The written form of a key: bare if it can be. -/
def key (text : String) : String :=
  if !text.isEmpty && text.toList.all (fun c => c.isAlphanum || c = '_' || c = '-') then text
  else quoted text

def assignment (name value : String) : String := key name ++ " = " ++ value ++ "\n"

/-- The written form of a list of strings: several have a line each. -/
def quotedList (items : List String) : String :=
  match items with
  | [] => "[]"
  | [item] => "[" ++ quoted item ++ "]"
  | _ => "[\n" ++ String.join (items.map fun item => "    " ++ quoted item ++ ",\n") ++ "]"

end LogPattern.Toml
