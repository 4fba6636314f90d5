import LogPattern.Command.Run

/-!
# The program

Reads the files that a command line names, has the command run on them, and writes
what comes of it.
-/

namespace LogPattern.Program

def absoluteNames (here : List String) (path : String) : List String :=
  let names := if path.startsWith "/" then FilePath.names path else here ++ FilePath.names path
  (names.foldl (fun done name => if name = ".." then done.drop 1 else name :: done) []).reverse

/-- A file of the given size with its content, or with the reason why there is none. -/
def readFileNode (size : Nat) (content : IO ByteArray) : IO FileNode := do
  try return .file (← content)
  catch
    | .permissionDenied .. => return .unreadableFile size .accessDenied
    | _ => return .unreadableFile size .deviceFailure

def readEntry (entry : IO.FS.DirEntry) : IO (String × FileNode) := do
  let metadata ← entry.path.symlinkMetadata
  let node ← match metadata.type with
    | .dir => pure FileNode.emptyDirectory
    | .file => readFileNode metadata.byteSize.toNat (IO.FS.readBinFile entry.path)
    | _ => pure (FileNode.link "")
  return (entry.fileName, node)

def readNode? (path : String) : IO (Option FileNode) := do
  let place := System.mkFilePath [path]
  if ← place.isDir then
    let entries ← (← place.readDir).toList.mapM readEntry
    return some (.directory entries)
  else if ← place.pathExists then
    let size := (← place.metadata).byteSize.toNat
    return some (← readFileNode size (IO.FS.readBinFile place))
  else return none

/-- The tree with what is at the given paths; outer directories come first. -/
def addPaths (tree : FileTree) (paths : List String) : IO FileTree := do
  let places := paths.map fun path => (absoluteNames tree.here path, path)
  let ordered := places.mergeSort fun one other => one.1.length ≤ other.1.length
  ordered.foldlM (fun tree (names, path) => do
    match ← readNode? path with
    | none => return tree
    | some node => return { tree with root := FileNode.insertAt node names tree.root }) tree

def readEnvironment : IO Environment := do
  let values ← Settings.environmentKeys.mapM fun key => return (key, ← IO.getEnv key)
  return fun key => (values.lookup key).join

partial def readAll (stream : IO.FS.Stream) (done : ByteArray) : IO ByteArray := do
  let bytes ← stream.read 65536
  if bytes.isEmpty then return done else readAll stream (done ++ bytes)

def surroundings (invocation : Invocation) : IO Surroundings := do
  let here := FilePath.names (toString (← IO.currentDir))
  let environment ← readEnvironment
  let empty : FileTree := ⟨FileNode.insertAt .emptyDirectory here .emptyDirectory, here⟩
  let settingsOnly ← addPaths empty [invocation.settingsPath]
  let loaded := Settings.loadOrDefault settingsOnly environment invocation.settingsPath
  let directories := match loaded.value with
    | .ok settings => settings.engine.patternDirs
    | .error _ => []
  let files ← addPaths empty (invocation.settingsPath :: directories ++ invocation.task.paths)
  let input ← if invocation.task.readsInput then readAll (← IO.getStdin) .empty
    else pure ByteArray.empty
  return ⟨files, input, environment, 4, .never⟩

def run (words : List String) : IO UInt32 := do
  match Invocation.ofWords words with
  | .error .help => IO.print Invocation.usageText; return 0
  | .error .version => IO.print Invocation.versionText; return 0
  | .error .misuse => IO.eprint Invocation.usageText; return 2
  | .ok invocation =>
      let run := Run.ofInvocation (← surroundings invocation) invocation
      IO.eprint run.records
      IO.print (run.transcript.output invocation.format)
      IO.eprint run.transcript.errorOutput
      return run.transcript.exitCode.toUInt32

end LogPattern.Program

def main (words : List String) : IO UInt32 := LogPattern.Program.run words
