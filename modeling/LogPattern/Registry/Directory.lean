import LogPattern.Registry.PatternFile

/-!
# Pattern directories

The pattern files of a directory are its regular files whose names do not start
with a dot, in the order of their names.  A file that cannot be read is reported
and passed over; a directory that defines too many patterns is refused.
-/

namespace LogPattern

def maxPatternFileSize : Nat := 10 * 1024 * 1024

def maxDirectoryPatterns : Nat := 100000

def loadPatternFile (tree : FileTree) (path : String) :
    Except EngineError (Logged (List NamedFragment)) :=
  match tree.sizeAt path with
  | .error fault => .error (.patternLoad path (.metadata fault))
  | .ok size =>
      if size > maxPatternFileSize then
        .error (.patternLoad path (.tooLarge size maxPatternFileSize))
      else
        match tree.readText path with
        | .error fault => .error (.patternLoad path (.reading fault))
        | .ok content => .ok (readPatterns content path)

def patternFileNames (entries : List (String × FileNode)) : List String :=
  ((entries.filter fun entry => entry.2.isFile && !entry.1.startsWith ".").map (·.1)).mergeSort
    (fun a b => !decide (b < a))

structure DirectoryLoad where
  patterns : List NamedFragment
  events : List LogEvent

def unreadableFile (path : String) (e : EngineError) : LogEvent :=
  ⟨.warn, "failed to load pattern file, skipping",
    [("path", .text path), ("error", .text e.message)]⟩

/--
Load files in order, onto what has been loaded before.  The answer is an error as
soon as there are too many patterns; the events so far are kept in either case.
-/
def loadPatternFiles (tree : FileTree) (directory : String) (load : DirectoryLoad) :
    List String → Logged (Except EngineError (List NamedFragment))
  | [] => ⟨.ok load.patterns, load.events⟩
  | path :: rest =>
      let load : DirectoryLoad :=
        match loadPatternFile tree path with
        | .ok file => ⟨load.patterns ++ file.value, load.events ++ file.events⟩
        | .error e => ⟨load.patterns, load.events ++ [unreadableFile path e]⟩
      if load.patterns.length > maxDirectoryPatterns then
        ⟨.error (.patternLoad directory (.tooManyPatterns maxDirectoryPatterns)), load.events⟩
      else loadPatternFiles tree directory load rest

def directoryLoaded (directory : String) (files count : Nat) : LogEvent :=
  ⟨.info, "loaded custom patterns",
    [("dir", .text directory), ("files", .number files), ("count", .number count)]⟩

def loadPatternDirectory (tree : FileTree) (directory : String) :
    Logged (Except EngineError (List NamedFragment)) :=
  match tree.listing directory with
  | .error (.opening fault) => ⟨.error (.patternLoad directory (.directory fault)), []⟩
  | .error (.reading fault) => ⟨.error (.patternLoad directory (.directoryEntry fault)), []⟩
  | .ok entries =>
      let names := patternFileNames entries
      let loaded := loadPatternFiles tree directory ⟨[], []⟩ (names.map (FilePath.join directory))
      match loaded.value with
      | .error e => ⟨.error e, loaded.events⟩
      | .ok patterns =>
          ⟨.ok patterns, loaded.events ++ [directoryLoaded directory names.length patterns.length]⟩

end LogPattern
