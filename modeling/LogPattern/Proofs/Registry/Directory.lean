import LogPattern.Proofs.FileTree
import LogPattern.Proofs.Text.ByteOrder
import LogPattern.Registry.Directory
import Mathlib

/-!
# What a pattern directory holds

Loading a directory gives the patterns of its files in the order of their names.  The
order in which the directory lists its entries does not matter, and a file that cannot
be loaded takes nothing from the others.
-/

namespace LogPattern

/-! ## The files of a directory -/

namespace FileNode

inductive IsRegularFile : FileNode → Prop
  | file (bytes : ByteArray) : IsRegularFile (file bytes)
  | unreadableFile (size : Nat) (fault : FileFault) : IsRegularFile (unreadableFile size fault)

theorem isFile_iff {node : FileNode} : node.isFile = true ↔ node.IsRegularFile := by
  constructor
  · intro h
    cases node with
    | file bytes => exact .file bytes
    | unreadableFile size fault => exact .unreadableFile size fault
    | _ => cases h
  · rintro (bytes | ⟨size, fault⟩) <;> rfl

end FileNode

/-- A regular file whose name does not start with a dot. -/
def IsPatternFile (entry : String × FileNode) : Prop :=
  entry.2.IsRegularFile ∧ ¬ ['.'] <+: entry.1.toList

theorem isPatternFile_iff {entry : String × FileNode} :
    (entry.2.isFile && !entry.1.startsWith ".") = true ↔ IsPatternFile entry := by
  rw [Bool.and_eq_true, FileNode.isFile_iff, Bool.not_eq_true',
    String.startsWith_string_eq_false_iff]
  rfl

/--
The patterns that a file of a directory contributes: those of its text, if it can be read,
is at most ten mebibytes long and is UTF-8.
-/
inductive Contributes (directory : String) : String × FileNode → List NamedFragment → Prop
  | patterns {name text : String} (hsize : text.utf8ByteSize ≤ 10 * 1024 * 1024) :
      Contributes directory (name, .file text.toUTF8)
        (readPatterns text (FilePath.join directory name)).value
  | nothing {name : String} {node : FileNode}
      (h : ∀ text : String, node = .file text.toUTF8 → 10 * 1024 * 1024 < text.utf8ByteSize) :
      Contributes directory (name, node) []

/--
The pattern files among the entries of a directory, in the order of the bytes of their
names, and the patterns that they contribute.
-/
structure DirectoryHolds (directory : String) (entries files : List (String × FileNode))
    (patterns : List NamedFragment) : Prop where
  mem_iff : ∀ file, file ∈ files ↔ file ∈ entries ∧ IsPatternFile file
  ordered : files.Pairwise fun file other => utf8Bytes file.1 < utf8Bytes other.1
  contributed : ∃ parts, List.Forall₂ (Contributes directory) files parts ∧
    patterns = parts.flatten

def patternFiles (entries : List (String × FileNode)) : List (String × FileNode) :=
  (entries.filter fun entry => entry.2.isFile && !entry.1.startsWith ".").mergeSort
    fun file other => !decide (other.1 < file.1)

theorem patternFileNames_eq (entries : List (String × FileNode)) :
    patternFileNames entries = (patternFiles entries).map (·.1) := by
  rw [patternFiles, List.map_mergeSort (s := fun a b => !decide (b < a)) fun _ _ _ _ => rfl]
  rfl

theorem mem_patternFiles {entries : List (String × FileNode)} {file : String × FileNode} :
    file ∈ patternFiles entries ↔ file ∈ entries ∧ IsPatternFile file := by
  rw [patternFiles, List.mem_mergeSort, List.mem_filter, isPatternFile_iff]

theorem IsListing.patternFiles {entries : List (String × FileNode)} (h : IsListing entries) :
    IsListing (patternFiles entries) :=
  (h.filter _).perm (List.mergeSort_perm _ _)

theorem notAfter_iff {name other : String} : (!decide (other < name)) = true ↔ name ≤ other := by
  rw [Bool.not_eq_true', decide_eq_false_iff_not, not_lt]

theorem patternFiles_ordered {entries : List (String × FileNode)} (h : IsListing entries) :
    (patternFiles entries).Pairwise fun file other => utf8Bytes file.1 < utf8Bytes other.1 := by
  have hsorted := @List.pairwise_mergeSort (String × FileNode)
    (fun file other => !decide (other.1 < file.1))
    (fun a b c hab hbc => notAfter_iff.2 (le_trans (notAfter_iff.1 hab) (notAfter_iff.1 hbc)))
    (fun a b => by
      rw [Bool.or_eq_true, notAfter_iff, notAfter_iff]
      exact le_total a.1 b.1)
    (entries.filter fun entry => entry.2.isFile && !entry.1.startsWith ".")
  have hnodup := List.pairwise_map.1 h.patternFiles.nodup
  refine (hsorted.and hnodup).imp fun hfiles => ?_
  exact lt_iff_utf8Bytes_lt.1 (lt_of_le_of_ne (notAfter_iff.1 hfiles.1) hfiles.2)

/-- The order leaves one list of the same files. -/
theorem eq_of_ordered {files other : List (String × FileNode)}
    (h : files.Pairwise fun file other => utf8Bytes file.1 < utf8Bytes other.1)
    (hother : other.Pairwise fun file other => utf8Bytes file.1 < utf8Bytes other.1)
    (hsame : ∀ file, file ∈ files ↔ file ∈ other) : files = other := by
  have hirrefl : Std.Irrefl fun file other : String × FileNode =>
      utf8Bytes file.1 < utf8Bytes other.1 := ⟨fun _ => List.lt_irrefl _⟩
  exact h.eq_of_mem_iff hother hsame

theorem Contributes.unique {directory : String} {file : String × FileNode}
    {patterns other : List NamedFragment} (h : Contributes directory file patterns)
    (hother : Contributes directory file other) : patterns = other := by
  have hsame {text otherText : String} (h : text.toUTF8 = otherText.toUTF8) : text = otherText :=
    String.toByteArray_inj.1 h
  cases h with
  | @patterns name text hsize =>
      generalize hnode : FileNode.file text.toUTF8 = node at hother
      cases hother with
      | patterns => rw [hsame (FileNode.file.inj hnode)]
      | nothing hlarge => exact absurd hsize (Nat.not_le.2 (hlarge text hnode.symm))
  | @nothing name node hlarge =>
      cases hother with
      | patterns hsize => exact absurd hsize (Nat.not_le.2 (hlarge _ rfl))
      | nothing => rfl

/-- Which files are loaded and what they contribute follows from the entries. -/
theorem DirectoryHolds.unique {directory : String} {entries files other : List (String × FileNode)}
    {patterns otherPatterns : List NamedFragment}
    (h : DirectoryHolds directory entries files patterns)
    (hother : DirectoryHolds directory entries other otherPatterns) :
    files = other ∧ patterns = otherPatterns := by
  obtain rfl : files = other := eq_of_ordered h.ordered hother.ordered fun file =>
    (h.mem_iff file).trans (hother.mem_iff file).symm
  obtain ⟨parts, hparts, rfl⟩ := h.contributed
  obtain ⟨otherParts, hotherParts, rfl⟩ := hother.contributed
  have hunique : Relator.RightUnique (Contributes directory) := fun _ _ _ => Contributes.unique
  exact ⟨rfl, by rw [List.right_unique_forall₂' hunique hparts hotherParts]⟩

/-! ## Loading files -/

section Loading

variable {tree other : FileTree} {directory : String}

theorem loadPatternFile_congr {path : String} (h : tree.resolve path = other.resolve path) :
    loadPatternFile tree path = loadPatternFile other path := by
  rw [loadPatternFile, loadPatternFile, FileTree.sizeAt, FileTree.sizeAt, FileTree.readText,
    FileTree.readText, h]

theorem loadPatternFiles_congr {paths : List String} (load : DirectoryLoad)
    (h : ∀ path ∈ paths, tree.resolve path = other.resolve path) :
    loadPatternFiles tree directory load paths = loadPatternFiles other directory load paths := by
  induction paths generalizing load with
  | nil => rfl
  | cons path rest ih =>
      obtain ⟨hpath, hrest⟩ := List.forall_mem_cons.1 h
      simp only [loadPatternFiles, loadPatternFile_congr hpath, ih _ hrest]

/-- The patterns of a path; one that cannot be loaded has none. -/
def patternsAt (tree : FileTree) (path : String) : List NamedFragment :=
  match loadPatternFile tree path with
  | .ok file => file.value
  | .error _ => []

theorem loadPatternFiles_cons (tree : FileTree) (directory : String) (load : DirectoryLoad)
    (path : String) (rest : List String) :
    ∃ events, loadPatternFiles tree directory load (path :: rest) =
      if (load.patterns ++ patternsAt tree path).length > maxDirectoryPatterns then
        ⟨.error (.patternLoad directory (.tooManyPatterns maxDirectoryPatterns)), events⟩
      else
        loadPatternFiles tree directory ⟨load.patterns ++ patternsAt tree path, events⟩ rest := by
  rw [patternsAt, loadPatternFiles]
  cases loadPatternFile tree path with
  | ok file => exact ⟨_, rfl⟩
  | error e => exact ⟨load.events ++ [unreadableFile path e], by simp⟩

/-- The check after each file refuses just what a check of all the patterns would refuse. -/
theorem value_loadPatternFiles {load : DirectoryLoad} {paths : List String}
    (hload : load.patterns.length ≤ maxDirectoryPatterns) :
    (loadPatternFiles tree directory load paths).value =
      if (load.patterns ++ paths.flatMap (patternsAt tree)).length ≤ maxDirectoryPatterns then
        .ok (load.patterns ++ paths.flatMap (patternsAt tree))
      else .error (.patternLoad directory (.tooManyPatterns maxDirectoryPatterns)) := by
  induction paths generalizing load with
  | nil => simp [loadPatternFiles, hload]
  | cons path rest ih =>
      obtain ⟨events, hload⟩ := loadPatternFiles_cons tree directory load path rest
      rw [hload, List.flatMap_cons, ← List.append_assoc]
      split
      · next hmany =>
          -- the files that follow cannot make it fewer
          rw [if_neg]
          rw [List.length_append]
          omega
      · next hfew => exact ih (Nat.not_lt.1 hfew)

theorem patternsAt_file {path : String} {bytes : ByteArray}
    (h : tree.resolve path = .ok (.file bytes)) :
    patternsAt tree path =
      if bytes.size > maxPatternFileSize then []
      else match String.fromUTF8? bytes with
        | some text => (readPatterns text path).value
        | none => [] := by
  simp only [patternsAt, loadPatternFile, FileTree.sizeAt, FileTree.readText, h, Except.map]
  split_ifs
  · rfl
  · cases String.fromUTF8? bytes <;> rfl

theorem patternsAt_unreadableFile {path : String} {size : Nat} {fault : FileFault}
    (h : tree.resolve path = .ok (.unreadableFile size fault)) : patternsAt tree path = [] := by
  simp only [patternsAt, loadPatternFile, FileTree.sizeAt, FileTree.readText, h, Except.map]
  split_ifs <;> rfl

theorem fromUTF8?_eq_some_iff {bytes : ByteArray} {text : String} :
    String.fromUTF8? bytes = some text ↔ bytes = text.toUTF8 := by
  constructor
  · intro h
    rw [String.fromUTF8?] at h
    split at h
    · rw [← Option.some.inj h]
      rfl
    · cases h
  · rintro rfl
    exact dif_pos text.isValidUTF8

theorem contributes_patternsAt {name : String} {node : FileNode} (hnode : node.IsRegularFile)
    (h : tree.resolve (FilePath.join directory name) = .ok node) :
    Contributes directory (name, node) (patternsAt tree (FilePath.join directory name)) := by
  cases hnode with
  | unreadableFile size fault =>
      rw [patternsAt_unreadableFile h]
      exact .nothing fun text hfile => by cases hfile
  | file bytes =>
      rw [patternsAt_file h]
      by_cases hlarge : bytes.size > maxPatternFileSize
      · rw [if_pos hlarge]
        refine .nothing fun text hfile => ?_
        rwa [FileNode.file.inj hfile] at hlarge
      · rw [if_neg hlarge]
        cases htext : String.fromUTF8? bytes with
        | none =>
            refine .nothing fun text hfile => ?_
            rw [fromUTF8?_eq_some_iff.2 (FileNode.file.inj hfile)] at htext
            cases htext
        | some text =>
            obtain rfl := fromUTF8?_eq_some_iff.1 htext
            exact .patterns (Nat.not_lt.1 hlarge)

end Loading

/-! ## Loading a directory -/

section Directory

variable {tree other : FileTree} {directory : String}
  {entries otherEntries : List (String × FileNode)}

theorem resolve_of_listing (h : tree.listing directory = .ok entries) :
    tree.resolve directory = .ok (.directory entries) := by
  rw [FileTree.listing] at h
  split at h <;> cases h
  assumption

def patternPaths (directory : String) (entries : List (String × FileNode)) : List String :=
  (patternFileNames entries).map (FilePath.join directory)

theorem patternPaths_eq (directory : String) (entries : List (String × FileNode)) :
    patternPaths directory entries =
      (patternFiles entries).map fun file => FilePath.join directory file.1 := by
  rw [patternPaths, patternFileNames_eq, List.map_map]
  rfl

theorem resolve_patternFile (hlisting : tree.listing directory = .ok entries)
    (hentries : IsListing entries) {file : String × FileNode}
    (hfile : file ∈ patternFiles entries) :
    tree.resolve (FilePath.join directory file.1) = .ok file.2 := by
  obtain ⟨hmem, hregular, -⟩ := mem_patternFiles.1 hfile
  exact FileTree.resolve_join (resolve_of_listing hlisting) hentries hmem
    (FileNode.isFile_iff.2 hregular)

theorem directoryHolds_patternFiles (hlisting : tree.listing directory = .ok entries)
    (hentries : IsListing entries) :
    DirectoryHolds directory entries (patternFiles entries)
      ((patternPaths directory entries).flatMap (patternsAt tree)) where
  mem_iff _ := mem_patternFiles
  ordered := patternFiles_ordered hentries
  contributed := by
    refine ⟨(patternPaths directory entries).map (patternsAt tree), ?_, List.flatMap_def⟩
    rw [patternPaths_eq, List.map_map, List.forall₂_map_right_iff, List.forall₂_same]
    intro file hfile
    exact contributes_patternsAt (mem_patternFiles.1 hfile).2.1
      (resolve_patternFile hlisting hentries hfile)

theorem patternFiles_perm (hentries : IsListing entries) (h : otherEntries.Perm entries) :
    patternFiles otherEntries = patternFiles entries := by
  refine eq_of_ordered (patternFiles_ordered (hentries.perm h)) (patternFiles_ordered hentries)
    fun file => ?_
  rw [mem_patternFiles, mem_patternFiles, h.mem_iff]

/-- Loading a directory is loading its files, and a report of their number. -/
theorem loadPatternDirectory_eq (hlisting : tree.listing directory = .ok entries) :
    loadPatternDirectory tree directory =
      let loaded := loadPatternFiles tree directory ⟨[], []⟩ (patternPaths directory entries)
      ⟨loaded.value, loaded.events ++ match loaded.value with
        | .ok patterns =>
            [directoryLoaded directory (patternFiles entries).length patterns.length]
        | .error _ => []⟩ := by
  have hnames : (patternFileNames entries).length = (patternFiles entries).length := by
    rw [patternFileNames_eq, List.length_map]
  rw [loadPatternDirectory, hlisting, patternPaths]
  dsimp only
  rw [hnames]
  cases hvalue : (loadPatternFiles tree directory ⟨[], []⟩
    ((patternFileNames entries).map (FilePath.join directory))).value <;> simp

theorem value_loadPatternDirectory (hlisting : tree.listing directory = .ok entries) :
    (loadPatternDirectory tree directory).value =
      if ((patternPaths directory entries).flatMap (patternsAt tree)).length ≤ maxDirectoryPatterns
      then .ok ((patternPaths directory entries).flatMap (patternsAt tree))
      else .error (.patternLoad directory (.tooManyPatterns maxDirectoryPatterns)) := by
  rw [loadPatternDirectory_eq hlisting]
  exact value_loadPatternFiles (Nat.zero_le _)

theorem loadPatternDirectory_perm (hlisting : tree.listing directory = .ok entries)
    (hentries : IsListing entries) (hother : other.listing directory = .ok otherEntries)
    (hperm : otherEntries.Perm entries) :
    loadPatternDirectory other directory = loadPatternDirectory tree directory := by
  have hfiles := patternFiles_perm hentries hperm
  have hresolve : ∀ path ∈ patternPaths directory entries,
      other.resolve path = tree.resolve path := by
    intro path hpath
    rw [patternPaths_eq] at hpath
    obtain ⟨file, hfile, rfl⟩ := List.mem_map.1 hpath
    rw [resolve_patternFile hlisting hentries hfile,
      resolve_patternFile hother (hentries.perm hperm) (hfiles ▸ hfile)]
  rw [loadPatternDirectory_eq hlisting, loadPatternDirectory_eq hother, patternPaths_eq, hfiles,
    ← patternPaths_eq, loadPatternFiles_congr _ hresolve]

/--
A directory gives the patterns of its pattern files in the order of their names, unless
there are too many of them.  A file that cannot be loaded is passed over, and the order
in which the entries are listed changes nothing.
-/
theorem loadPatternDirectory_of_listing (hlisting : tree.listing directory = .ok entries)
    (hentries : IsListing entries) :
    (∃ files patterns, DirectoryHolds directory entries files patterns ∧
      if patterns.length ≤ 100000 then
        (loadPatternDirectory tree directory).value = .ok patterns ∧
          (loadPatternDirectory tree directory).events.getLast? =
            some (directoryLoaded directory files.length patterns.length)
      else
        (loadPatternDirectory tree directory).value =
          .error (.patternLoad directory (.tooManyPatterns 100000))) ∧
      ∀ {other otherEntries}, other.listing directory = .ok otherEntries →
        otherEntries.Perm entries →
          loadPatternDirectory other directory = loadPatternDirectory tree directory := by
  refine ⟨⟨_, _, directoryHolds_patternFiles hlisting hentries, ?_⟩,
    loadPatternDirectory_perm hlisting hentries⟩
  have hlimit : maxDirectoryPatterns = 100000 := rfl
  have hvalue := value_loadPatternDirectory hlisting
  rw [hlimit] at hvalue
  split
  · next hfew =>
      rw [if_pos hfew] at hvalue
      refine ⟨hvalue, ?_⟩
      rw [loadPatternDirectory_eq hlisting] at hvalue ⊢
      dsimp only at hvalue ⊢
      rw [hvalue, List.getLast?_append]
      rfl
  · next hmany => rwa [if_neg hmany] at hvalue

/-- Of these entries two are loaded and one cannot be; the others are left out. -/
theorem loadPatternDirectory_of_mixed :
    let entries : List (String × FileNode) :=
      [("b", .file "B y".toUTF8), (".h", .file "H z".toUTF8), ("s", .emptyDirectory),
        ("l", .link "b"), ("no", .unreadableFile 3 .accessDenied),
        ("a", .file "A x\nB w".toUTF8)]
    let tree : FileTree := ⟨.directory [("p", .directory entries)], []⟩
    let reversed : FileTree := ⟨.directory [("p", .directory entries.reverse)], []⟩
    (loadPatternDirectory tree "p").value = .ok [⟨"A", "x"⟩, ⟨"B", "w"⟩, ⟨"B", "y"⟩] ∧
      loadPatternDirectory reversed "p" = loadPatternDirectory tree "p" := by
  intro entries tree reversed
  have hlisting : tree.listing "p" = .ok entries := by cbv
  have hreversed : reversed.listing "p" = .ok entries.reverse := by cbv
  have hentries : IsListing entries := by decide +kernel
  obtain ⟨⟨files, patterns, hholds, hvalue⟩, hperm⟩ :=
    loadPatternDirectory_of_listing hlisting hentries
  refine ⟨?_, hperm hreversed entries.reverse_perm⟩
  have hpatterns : patterns = [⟨"A", "x"⟩, ⟨"B", "w"⟩, ⟨"B", "y"⟩] := by
    rw [(hholds.unique (directoryHolds_patternFiles hlisting hentries)).2]
    have hpaths : patternPaths "p" entries = ["p/a", "p/b", "p/no"] := by cbv
    have hfirst : patternsAt tree "p/a" = [⟨"A", "x"⟩, ⟨"B", "w"⟩] := by cbv
    have hsecond : patternsAt tree "p/b" = [⟨"B", "y"⟩] := by cbv
    have hthird : patternsAt tree "p/no" = [] := by cbv
    rw [hpaths]
    simp [hfirst, hsecond, hthird]
  rw [hpatterns, if_pos (by decide)] at hvalue
  exact hvalue.1

end Directory

end LogPattern
