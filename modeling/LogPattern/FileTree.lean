/-!
# File trees

Directories and files as a value, with the directory that relative paths start
from.  Everything that reads files takes the tree as an argument, so what is read
depends on the tree alone.
-/

namespace LogPattern

inductive FileFault where
  | notFound
  | notDirectory
  | isDirectory
  | tooManyLinks
  | nameTooLong
  | nulInName
  | notUtf8
  | deviceFailure
  | accessDenied
  | stated (text : String)
deriving DecidableEq, Repr

namespace FileFault

def message : FileFault → String
  | notFound => "No such file or directory (os error 2)"
  | notDirectory => "Not a directory (os error 20)"
  | isDirectory => "Is a directory (os error 21)"
  | tooManyLinks => "Too many levels of symbolic links (os error 40)"
  | nameTooLong => "File name too long (os error 36)"
  | nulInName => "file name contained an unexpected NUL byte"
  | notUtf8 => "stream did not contain valid UTF-8"
  | deviceFailure => "Input/output error (os error 5)"
  | accessDenied => "Permission denied (os error 13)"
  | stated text => text

end FileFault

inductive FileNode where
  | file (bytes : ByteArray)
  | directory (entries : List (String × FileNode))
  | link (target : String)
  /-- A directory that opens, but whose entries cannot be read. -/
  | unreadableDirectory
  /-- A file of known size whose content cannot be read. -/
  | unreadableFile (size : Nat) (fault : FileFault)
deriving Inhabited

namespace FileNode

def emptyDirectory : FileNode := directory []

def isFile : FileNode → Bool
  | file _ => true
  | unreadableFile _ _ => true
  | _ => false

def isDirectory : FileNode → Bool
  | directory _ => true
  | unreadableDirectory => true
  | _ => false

def entries : FileNode → List (String × FileNode)
  | directory entries => entries
  | _ => []

def entry? (node : FileNode) (name : String) : Option FileNode :=
  (node.entries.find? (·.1 = name)).map (·.2)

end FileNode

namespace FilePath

/-- The names between the slashes of a path, without empty ones and single dots. -/
def names (path : String) : List String :=
  (path.splitOn "/").filter fun name => name != "" && name != "."

def meansDirectory (path : String) : Bool := path.endsWith "/" || path.endsWith "/."

def join (directory name : String) : String :=
  if directory.endsWith "/" || directory.isEmpty then directory ++ name
  else directory ++ "/" ++ name

end FilePath

/-- A root directory, with the names that lead to the directory where relative paths start. -/
structure FileTree where
  root : FileNode
  here : List String

namespace FileTree

/-- The number of symbolic links that one path may lead through. -/
def linkLimit : Nat := 40

/--
The directories that names lead to, the innermost first.  `around` are the directories
on the way; where a name leads to no directory, the way ends.
-/
def descend (around : List FileNode) (node : FileNode) : List String → List FileNode
  | [] => node :: around
  | name :: rest =>
      match node.entry? name with
      | some next => descend (node :: around) next rest
      | none => []

def workingDirectories (tree : FileTree) : List FileNode := descend [] tree.root tree.here

def start (tree : FileTree) (path : String) : List FileNode :=
  if path.startsWith "/" then [tree.root] else tree.workingDirectories

/--
The node that names lead to from the innermost of the directories `here`; the
directories around it follow in the list.  `links` symbolic links may still be
followed.
-/
def walk (tree : FileTree) (links : Nat) (here : List FileNode) (names : List String) :
    Except FileFault FileNode :=
  match here, names with
  | [], _ => .error .notFound
  | node :: _, [] => .ok node
  | node :: outer, name :: rest =>
      if name.utf8ByteSize > 255 then .error .nameTooLong
      else if !node.isDirectory then .error .notDirectory
      else if name = ".." then
        walk tree links (if outer.isEmpty then here else outer) rest
      else
        match node.entry? name with
        | none => .error .notFound
        | some (.link target) =>
            match links with
            | 0 => .error .tooManyLinks
            | links + 1 =>
                walk tree links (if target.startsWith "/" then [tree.root] else here)
                  (FilePath.names target ++ rest)
        | some next => walk tree links (next :: here) rest
termination_by (links, names.length)

/-- The node at a path, following symbolic links. -/
def resolve (tree : FileTree) (path : String) : Except FileFault FileNode :=
  if path.contains '\x00' then .error .nulInName
  else if path.isEmpty then .error .notFound
  else
    match tree.walk linkLimit (tree.start path) (FilePath.names path) with
    | .error fault => .error fault
    | .ok node =>
        if FilePath.meansDirectory path && !node.isDirectory then .error .notDirectory
        else .ok node

def sizeAt (tree : FileTree) (path : String) : Except FileFault Nat :=
  (tree.resolve path).map fun
    | .file bytes => bytes.size
    | .unreadableFile size _ => size
    | _ => 0

def readText (tree : FileTree) (path : String) : Except FileFault String :=
  match tree.resolve path with
  | .error fault => .error fault
  | .ok (.file bytes) =>
      match String.fromUTF8? bytes with
      | some text => .ok text
      | none => .error .notUtf8
  | .ok (.unreadableFile _ fault) => .error fault
  | .ok _ => .error .isDirectory

theorem readText_of_resolve {tree : FileTree} {path text : String}
    (h : tree.resolve path = .ok (.file text.toUTF8)) : tree.readText path = .ok text := by
  have htext : String.fromUTF8? text.toUTF8 = some text := by
    simp [String.fromUTF8?, String.fromUTF8, text.isValidUTF8]
  rw [readText, h]
  dsimp only
  rw [htext]

inductive ListingFault where
  | opening (fault : FileFault)
  | reading (fault : FileFault)

def listing (tree : FileTree) (path : String) : Except ListingFault (List (String × FileNode)) :=
  match tree.resolve path with
  | .error fault => .error (.opening fault)
  | .ok (.directory entries) => .ok entries
  | .ok .unreadableDirectory => .error (.reading .deviceFailure)
  | .ok _ => .error (.opening .notDirectory)

end FileTree

namespace FileNode

/-- Put a node in the place of the entry with a name, or at the end. -/
def setEntry (name : String) (node : FileNode) :
    List (String × FileNode) → List (String × FileNode)
  | [] => [(name, node)]
  | entry :: rest =>
      if entry.1 = name then (name, node) :: rest else entry :: setEntry name node rest

/-- Put a node at the place that names lead to, with the directories on the way. -/
def insertAt (node : FileNode) : List String → FileNode → FileNode
  | [], _ => node
  | name :: rest, tree =>
      directory (setEntry name (insertAt node rest ((tree.entry? name).getD emptyDirectory))
        tree.entries)

def insert (tree : FileNode) (path : String) (node : FileNode) : FileNode :=
  insertAt node (FilePath.names path) tree

def insertDirectory (tree : FileNode) (path : String) : FileNode :=
  match (FileTree.mk tree []).resolve path with
  | .ok (directory _) => tree
  | _ => tree.insert path emptyDirectory

end FileNode

end LogPattern
