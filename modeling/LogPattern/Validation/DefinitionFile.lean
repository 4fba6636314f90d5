import LogPattern.FileTree
import LogPattern.LogEvent
import LogPattern.Validation.Definition
import LogPattern.Yaml.Content

/-!
# Definition files

A definition file lists pattern definitions in YAML, at the top or under the key
`patterns`.  A definition has the keys `id`, `name` and `pattern`, or it is a list of
these three; `patternText` means the same as `pattern`, and only `id` may be missing.
-/

namespace LogPattern

namespace Yaml.Content

def text? : Content → Option String
  | text value => some value
  | _ => none

/-- The name of a key.  The keys of a record are also numbered from zero. -/
def keyName? (names : List String) : Content → Option String
  | text name => some name
  | natural place => some (names.getD place "")
  | _ => none

/--
The values of a record under its names; what has another name means nothing.  No
name may come twice, and every key must be a name or number.
-/
def members? (names : List String) (nameOf : String → String) (pairs : List (Content × Content)) :
    Option (List (String × Content)) :=
  pairs.foldlM (fun members (key, value) =>
    match keyName? names key with
    | none => none
    | some name =>
        let name := nameOf name
        if !names.contains name then some members
        else if (members.lookup name).isSome then none
        else some ((name, value) :: members)) []

end Yaml.Content

open Yaml

namespace PatternDefinition

def keys : List String := ["id", "name", "pattern"]

def keyOf (name : String) : String := if name = "patternText" then "pattern" else name

def optionalText? : Option Content → Option (Option String)
  | none => some none
  | some value => value.text?.map some

def ofContent? : Content → Option PatternDefinition
  | .map pairs => do
      let members ← Content.members? keys keyOf pairs
      let id ← optionalText? (members.lookup "id")
      let name ← (← members.lookup "name").text?
      let pattern ← (← members.lookup "pattern").text?
      return ⟨id, name, pattern⟩
  | .list [id, name, pattern] => do return ⟨some (← id.text?), ← name.text?, ← pattern.text?⟩
  | _ => none

def listOfContent? : Content → Option (List PatternDefinition)
  | .list items => items.mapM ofContent?
  | _ => none

def fileOfContent? (content : Content) : Option (List PatternDefinition) :=
  match content with
  | .map pairs =>
      match Content.members? ["patterns"] id pairs with
      | some [(_, patterns)] => listOfContent? patterns
      | _ => none
  | _ => listOfContent? content

def ofText? (text : String) : Except LoadProblem (List PatternDefinition) :=
  match Content.ofText? text.toList with
  | none => .error .malformedYaml
  | some content =>
      match fileOfContent? content with
      | none => .error .unexpectedYaml
      | some [] => .error .noDefinitions
      | some definitions => .ok definitions

def ofSource? (path text : String) : Except EngineError (List PatternDefinition) :=
  (ofText? text).mapError (.patternLoad path)

def maxFileSize : Nat := 1024 * 1024

def loadedEvent (path : String) (count : Nat) : LogEvent :=
  ⟨.debug, "loaded pattern definitions", [("path", .text path), ("count", .number count)]⟩

def ofFile (tree : FileTree) (path : String) : Except EngineError (List PatternDefinition) :=
  match tree.sizeAt path with
  | .error fault => .error (.patternLoad path (.metadata fault))
  | .ok size =>
      if size > maxFileSize then .error (.patternLoad path (.tooLarge size maxFileSize))
      else
        match tree.readText path with
        | .error fault => .error (.patternLoad path (.reading fault))
        | .ok text => ofSource? path text

end PatternDefinition

end LogPattern
