/-!
# Filter blocks

The block of a collection pipeline that applies patterns to the message of an event.
A pattern stands between double quotes, with a backslash before every backslash and
every quote; several patterns stand in brackets, and the pipeline tries them in order.
-/

namespace LogPattern.FilterBlock

def quoteChar (c : Char) : List Char := if c = '\\' || c = '"' then ['\\', c] else [c]

def quote (pattern : List Char) : List Char := '"' :: pattern.flatMap quoteChar ++ ['"']

def opening : List Char :=
  "filter \x7b\n  grok \x7b\n    match => \x7b \"message\" => ".toList

def closing : List Char := " \x7d\n  \x7d\n\x7d".toList

def render (value : List Char) : String := String.ofList (opening ++ value ++ closing)

/-- The value for patterns in order: a lone pattern needs no brackets. -/
def value (patterns : List (List Char)) : List Char :=
  match patterns with
  | [pattern] => quote pattern
  | _ => '[' :: [',', ' '].intercalate (patterns.map quote) ++ [']']

def ofPattern (pattern : String) : String := render (quote pattern.toList)

def ofPatterns (patterns : List String) : String := render (value (patterns.map String.toList))

end LogPattern.FilterBlock
