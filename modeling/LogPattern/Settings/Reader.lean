import LogPattern.Settings.Basic
import LogPattern.Toml.Document

/-!
# Settings in TOML

The tables `general` and `engine` have the settings under their names.  What is
missing takes its usual value, and what has another name means nothing.  In the
place of a table there may be an array with the settings in their order.
-/

namespace LogPattern

namespace Toml

/-- The settings of a table, or of an array in the place of one. -/
inductive Record where
  | named (members : List (String × Value))
  | ordered (items : List Value)

namespace Record

def ofValue? : Value → Option Record
  | .table members => some (named members)
  | .array items => some (ordered items)
  | _ => none

def get? (record : Record) (place : Nat) (name : String) : Option Value :=
  match record with
  | named members => members.lookup name
  | ordered items => items[place]?

def read? {α : Type} (record : Record) (place : Nat) (name : String) (default : α)
    (read : Value → Option α) : Option α :=
  match record.get? place name with
  | none => some default
  | some value => read value

end Record

def Value.text? : Value → Option String
  | .string value => some value
  | _ => none

def Value.size? : Value → Option Nat
  | .integer value => if 0 ≤ value && value ≤ (maxSize : Int) then some value.toNat else none
  | _ => none

def Value.texts? : Value → Option (List String)
  | .array items => items.mapM Value.text?
  | _ => none

def Value.textTable? : Value → Option (Std.TreeMap String String)
  | .table members =>
      members.foldlM (fun map member => member.2.text?.map (map.insert member.1)) ∅
  | _ => none

end Toml

open Toml

def GeneralSettings.ofToml? (value : Value) : Option GeneralSettings := do
  let record ← Record.ofValue? value
  let usual := GeneralSettings.default
  let logLevel ← record.read? 0 "log_level" usual.logLevel Value.text?
  let logFormat ← record.read? 1 "log_format" usual.logFormat Value.text?
  return ⟨logLevel, logFormat⟩

def EngineSettings.ofToml? (value : Value) : Option EngineSettings := do
  let record ← Record.ofValue? value
  let usual := EngineSettings.default
  let maxRecursionDepth ←
    record.read? 0 "max_recursion_depth" usual.maxRecursionDepth Value.size?
  let workerThreads ← record.read? 1 "worker_threads" usual.workerThreads Value.size?
  let parallelThreshold ←
    record.read? 2 "parallel_threshold" usual.parallelThreshold Value.size?
  let maxLines ← record.read? 3 "max_lines" usual.maxLines Value.size?
  let patternDirs ← record.read? 4 "pattern_dirs" usual.patternDirs Value.texts?
  let customPatterns ← record.read? 5 "custom_patterns" usual.customPatterns Value.textTable?
  return ⟨maxRecursionDepth, workerThreads, parallelThreshold, maxLines, patternDirs,
    customPatterns⟩

def Settings.ofText? (text : String) : Option Settings := do
  let record := Record.named (← document? text)
  let usual := Settings.default
  let general ← record.read? 0 "general" usual.general GeneralSettings.ofToml?
  let engine ← record.read? 1 "engine" usual.engine EngineSettings.ofToml?
  return ⟨general, engine⟩

end LogPattern
