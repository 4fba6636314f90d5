import LogPattern.FilterBlock
import LogPattern.Pattern.Compiled
import LogPattern.Registry.Basic
import LogPattern.Report.Basic
import LogPattern.Text.Column

/-!
# Reports on patterns

A list of the patterns of a registry, all there is to say about one of them, and the
filter block of patterns.
-/

namespace LogPattern

/--
The small letter of a capital, as far as it matters to a search among names: names
are in ASCII, and of other characters only the Kelvin sign has a small letter there.
-/
def smallLetter (c : Char) : Char := if c = '\u212a' then 'k' else c.toLower

/-- Some part of a text is the same as `part`. -/
def hasPart (part : List Char) : List Char → Bool
  | [] => part.isEmpty
  | c :: rest => part.isPrefixOf (c :: rest) || hasPart part rest

def nameHasPart (part name : String) : Bool :=
  hasPart (part.toList.map smallLetter) (name.toList.map smallLetter)

structure PatternList where
  patterns : List NamedFragment

namespace PatternList

/-- The patterns whose names have a part, or all patterns, in the order of their names. -/
def ofRegistry (registry : Registry) (part? : Option String) : PatternList :=
  let listed := registry.entries.toList.filter fun entry =>
    match part? with
    | some part => nameHasPart part entry.1
    | none => true
  ⟨listed.map fun entry => ⟨entry.1, entry.2⟩⟩

def previewLength : Nat := 60

def preview (fragment : String) : String :=
  if fragment.length ≤ previewLength then fragment
  else String.ofList (fragment.toList.take previewLength) ++ "..."

def row (name fragment : String) : String := Text.alignLeft 28 name ++ " " ++ fragment

def patternRow (pattern : NamedFragment) : String := row pattern.name (preview pattern.fragment)

def patternJson (pattern : NamedFragment) : Json :=
  .object [("name", .string pattern.name), ("fragment", .string pattern.fragment)]

def report (list : PatternList) : Report :=
  let total := list.patterns.length
  ⟨linesText ([s!"Patterns ({total} total)", "", row "Name" "Fragment", Text.rule 90] ++
      list.patterns.map patternRow),
    .object [("total", .number total), ("patterns", .array (list.patterns.map patternJson))]⟩

end PatternList

structure PatternDetail where
  pattern : NamedFragment
  compiled : CompiledPattern

namespace PatternDetail

def fieldLine (field : Field) : String :=
  let hint := match field.hint with
    | some hint => " (" ++ hint ++ ")"
    | none => ""
  "    - " ++ field.name ++ hint ++ " from " ++ field.token

def fieldJson (field : Field) : Json :=
  .object ([("name", .string field.name), ("token", .string field.token)] ++
    Json.optionalMember "type_hint" field.hint)

def fieldLines (fields : List Field) : List String :=
  if fields.isEmpty then ["  Fields:   (none)"] else "  Fields:" :: fields.map fieldLine

def report (detail : PatternDetail) : Report :=
  ⟨linesText (["Pattern: " ++ detail.pattern.name, "  Fragment: " ++ detail.pattern.fragment,
      "  Expanded: " ++ detail.compiled.expanded] ++ fieldLines detail.compiled.fields),
    .object [("name", .string detail.pattern.name), ("fragment", .string detail.pattern.fragment),
      ("expanded", .string detail.compiled.expanded),
      ("fields", .array (detail.compiled.fields.map fieldJson))]⟩

end PatternDetail

namespace FilterBlock

def report (patterns : List String) : Report :=
  ⟨linesText [ofPatterns patterns],
    .object [("patterns", .array (patterns.map .string)),
      ("block", .string (ofPatterns patterns))]⟩

end FilterBlock

end LogPattern
