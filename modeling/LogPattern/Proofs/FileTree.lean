import LogPattern.FileTree
import LogPattern.Proofs.KeyedList
import LogPattern.Proofs.Text.Split

/-!
# Paths into directories

An entry of a directory stands at the path that joins the path of the directory with its
name, whichever way the path of the directory takes: through links, through directories
around it, from the root or not.
-/

namespace LogPattern

/-- What an entry of a directory can be called: one step of a path, and not too long. -/
structure IsFileName (name : String) : Prop where
  ne_empty : name ≠ ""
  ne_dot : name ≠ "."
  ne_dotDot : name ≠ ".."
  slash_notMem : '/' ∉ name.toList
  nul_notMem : '\x00' ∉ name.toList
  size_le : name.utf8ByteSize ≤ 255

theorem IsFileName.toList_ne_nil {name : String} (h : IsFileName name) : name.toList ≠ [] := by
  simpa using h.ne_empty

theorem IsFileName.toList_ne_dot {name : String} (h : IsFileName name) : name.toList ≠ ['.'] :=
  fun hdot => h.ne_dot (String.toList_inj.1 hdot)

instance (name : String) : Decidable (IsFileName name) :=
  decidable_of_iff
    (name ≠ "" ∧ name ≠ "." ∧ name ≠ ".." ∧ '/' ∉ name.toList ∧ '\x00' ∉ name.toList ∧
      name.utf8ByteSize ≤ 255)
    ⟨fun ⟨hempty, hdot, hdotDot, hslash, hnul, hsize⟩ =>
      ⟨hempty, hdot, hdotDot, hslash, hnul, hsize⟩,
    fun h => ⟨h.ne_empty, h.ne_dot, h.ne_dotDot, h.slash_notMem, h.nul_notMem, h.size_le⟩⟩

structure IsListing (entries : List (String × FileNode)) : Prop where
  isFileName : ∀ entry ∈ entries, IsFileName entry.1
  nodup : (entries.map (·.1)).Nodup

instance (entries : List (String × FileNode)) : Decidable (IsListing entries) :=
  decidable_of_iff
    ((∀ entry ∈ entries, IsFileName entry.1) ∧ (entries.map (·.1)).Nodup)
    ⟨fun ⟨hnames, hnodup⟩ => ⟨hnames, hnodup⟩, fun h => ⟨h.isFileName, h.nodup⟩⟩

theorem IsListing.perm {entries other : List (String × FileNode)} (h : IsListing entries)
    (hperm : other.Perm entries) : IsListing other where
  isFileName entry hentry := h.isFileName entry (hperm.subset hentry)
  nodup := (hperm.map (·.1)).nodup_iff.2 h.nodup

theorem IsListing.filter {entries : List (String × FileNode)} (h : IsListing entries)
    (p : String × FileNode → Bool) : IsListing (entries.filter p) where
  isFileName entry hentry := h.isFileName entry (List.mem_filter.1 hentry).1
  nodup := h.nodup.sublist (List.filter_sublist.map _)

namespace FileNode

theorem entry?_of_mem {entries : List (String × FileNode)} (h : IsListing entries)
    {name : String} {node : FileNode} (hmem : (name, node) ∈ entries) :
    FileNode.entry? (directory entries) name = some node := by
  have hfind := (find?_key_eq_some_iff (k := name) h.nodup).2 ⟨hmem, rfl⟩
  rw [ entry?, FileNode.entries, hfind]
  rfl

theorem isDirectory_of_entry? {node entry : FileNode} {name : String}
    (h : node.entry? name = some entry) : node.isDirectory = true := by
  cases node with
  | directory entries => rfl
  | _ => simp [ entry?, entries] at h

end FileNode

namespace FileTree

variable {tree : FileTree} {node entry : FileNode} {name : String}

theorem walk_nil {links : Nat} {outer : List FileNode} :
    tree.walk links (node :: outer) [] = .ok node := by
  rw [walk]

theorem walk_entry {links : Nat} {outer : List FileNode} (hname : IsFileName name)
    (hentry : node.entry? name = some entry) (hfile : entry.isFile = true) :
    tree.walk links (node :: outer) [name] = .ok entry := by
  have hsize := Nat.not_lt.2 hname.size_le
  have hdirectory := FileNode.isDirectory_of_entry? hentry
  rw [walk, if_neg hsize, hdirectory, if_neg (by decide), if_neg hname.ne_dotDot, hentry]
  cases entry with
  | link target => cases hfile
  | _ => exact walk_nil

/-- A way to a directory goes on to its entries, however many links it has led through. -/
theorem walk_append {links : Nat} {here : List FileNode} {names : List String}
    (h : tree.walk links here names = .ok node) (hname : IsFileName name)
    (hentry : node.entry? name = some entry) (hfile : entry.isFile = true) :
    tree.walk links here (names ++ [name]) = .ok entry := by
  fun_induction FileTree.walk tree links here names with
  | case1 | case3 | case4 | case6 | case7 => cases h
  | case2 links first outer =>
      obtain rfl : first = node := Except.ok.inj h
      exact walk_entry hname hentry hfile
  | case5 links first outer rest hdirectory hsize ih =>
      -- one directory up
      simp only [dite_eq_ite] at ih
      rw [List.cons_append, walk, if_neg hsize, if_neg hdirectory, if_pos rfl]
      exact ih h
  | case8 first outer step rest hsize hdirectory hup target hstep links ih =>
      -- the names of a link's target come in front of the ones that are left
      simp only [dite_eq_ite] at ih
      rw [List.cons_append, walk, if_neg hsize, if_neg hdirectory, if_neg hup, hstep]
      dsimp only
      rw [← List.append_assoc]
      exact ih h
  | case9 links first outer step rest hsize hdirectory hup next hlink hstep ih =>
      -- one directory down
      rw [List.cons_append, walk, if_neg hsize, if_neg hdirectory, if_neg hup, hstep]
      cases next with
      | link target => exact absurd rfl (hlink target)
      | _ => exact ih h

end FileTree

namespace FilePath

variable {directory name : String}

theorem endsWith_iff {path mark : String} :
    path.endsWith mark = true ↔ mark.toList <:+ path.toList := by
  rw [← String.endsWith_toSlice, String.Slice.endsWith_string_iff, String.copy_toSlice]

theorem names_eq (path : String) : names path =
    ((path.toList.splitOn '/').filter fun part => part ≠ [] ∧ part ≠ ['.']).map String.ofList := by
  have hsplit : path.splitOn "/" = (path.toList.splitOn '/').map String.ofList :=
    splitOn_singleton path '/'
  rw [names, hsplit, List.filter_map]
  congr 1
  refine List.filter_congr fun part _ => ?_
  have hsame (mark : String) : (String.ofList part == mark) = decide (part = mark.toList) := by
    rw [Bool.eq_iff_iff, beq_iff_eq, decide_eq_true_eq, ← String.toList_inj, String.toList_ofList]
  rw [Function.comp_apply, bne, bne, hsame, hsame, ← decide_not, ← decide_not, Bool.decide_and]
  rfl

/-- Between a directory and a name stands one slash, unless the directory ends with it. -/
theorem exists_join (hdirectory : directory ≠ "") (name : String) :
    ∃ front, (directory.toList = front ∨ directory.toList = front ++ ['/']) ∧
      (join directory name).toList = front ++ '/' :: name.toList := by
  by_cases hend : directory.endsWith "/" = true
  · obtain ⟨front, hfront⟩ := endsWith_iff.1 hend
    refine ⟨front, .inr hfront.symm, ?_⟩
    simp [join, hend, ← hfront]
  · refine ⟨directory.toList, .inl rfl, ?_⟩
    simp [join, hend, hdirectory]

theorem names_join (hdirectory : directory ≠ "") (hname : IsFileName name) :
    names (join directory name) = names directory ++ [name] := by
  obtain ⟨front, hfront, hjoin⟩ := exists_join hdirectory name
  have hlast : (name.toList.splitOn '/').filter (fun part => part ≠ [] ∧ part ≠ ['.']) =
      [name.toList] := by
    rw [List.splitOn_eq_singleton hname.slash_notMem]
    simp [hname.toList_ne_nil, hname.toList_ne_dot]
  rw [names_eq, hjoin, List.splitOn_append_cons_self, List.filter_append, hlast, names_eq]
  rcases hfront with hfront | hfront <;> rw [hfront]
  · simp
  · rw [List.splitOn_append_cons_self]
    simp

theorem suffix_of_endsWith_join (hdirectory : directory ≠ "") (hname : IsFileName name)
    {mark : String} {rest : List Char} (hmark : mark.toList = '/' :: rest)
    (h : (join directory name).endsWith mark = true) : name.toList <:+ rest := by
  obtain ⟨front, -, hjoin⟩ := exists_join hdirectory name
  have hends : name.toList <:+ (join directory name).toList := by
    rw [hjoin, List.append_cons]
    exact List.suffix_append _ _
  rcases List.suffix_or_suffix_of_suffix (endsWith_iff.1 h) hends with hinside | hacross
  · exact absurd (hinside.subset (by simp [hmark])) hname.slash_notMem
  · rw [hmark] at hacross
    rcases List.suffix_cons_iff.1 hacross with hwhole | hrest
    · exact absurd (by simp [hwhole]) hname.slash_notMem
    · exact hrest

/-- A path that ends in the name of an entry does not ask for a directory. -/
theorem meansDirectory_join (hdirectory : directory ≠ "") (hname : IsFileName name) :
    meansDirectory (join directory name) = false := by
  have hslash : (join directory name).endsWith "/" = false := by
    refine Bool.eq_false_iff.2 fun h => ?_
    have hnothing : name.toList <:+ [] :=
      suffix_of_endsWith_join hdirectory hname (by simp) h
    exact hname.toList_ne_nil (List.suffix_nil.1 hnothing)
  have hslashDot : (join directory name).endsWith "/." = false := by
    refine Bool.eq_false_iff.2 fun h => ?_
    have hrest : name.toList <:+ ['.'] := suffix_of_endsWith_join hdirectory hname (by simp) h
    rcases List.suffix_cons_iff.1 hrest with hdot | hnothing
    · exact hname.toList_ne_dot hdot
    · exact hname.toList_ne_nil (List.suffix_nil.1 hnothing)
  rw [meansDirectory, hslash, hslashDot, Bool.or_false]

theorem startsWith_join (hdirectory : directory ≠ "") (name : String) :
    (join directory name).startsWith "/" = directory.startsWith "/" := by
  obtain ⟨c, rest, hchars⟩ := List.exists_cons_of_ne_nil (mt String.toList_eq_nil_iff.1 hdirectory)
  have hjoin : ∃ back, (join directory name).toList = c :: back := by
    rw [join]
    split <;> simp [hchars]
  obtain ⟨back, hback⟩ := hjoin
  rw [Bool.eq_iff_iff, String.startsWith_string_iff, String.startsWith_string_iff, hchars, hback]
  simp

end FilePath

namespace FileTree

variable {tree : FileTree} {node : FileNode}

theorem resolve_eq_ok {path : String} (h : tree.resolve path = .ok node) :
    '\x00' ∉ path.toList ∧ path ≠ "" ∧
      tree.walk linkLimit (tree.start path) (FilePath.names path) = .ok node := by
  rw [resolve] at h
  split_ifs at h with hnul hempty
  refine ⟨by simpa using hnul, fun h => hempty (String.isEmpty_iff.2 h), ?_⟩
  cases hwalk : tree.walk linkLimit (tree.start path) (FilePath.names path) with
  | error fault => simp [hwalk] at h
  | ok found =>
      rw [hwalk] at h
      dsimp only at h
      split_ifs at h
      exact h

/-- The regular files of a directory stand under their names. -/
theorem resolve_join {directory name : String} {entries : List (String × FileNode)}
    (h : tree.resolve directory = .ok (.directory entries)) (hentries : IsListing entries)
    (hmem : (name, node) ∈ entries) (hfile : node.isFile = true) :
    tree.resolve (FilePath.join directory name) = .ok node := by
  obtain ⟨hnul, hne, hwalk⟩ := resolve_eq_ok h
  have hname := hentries.isFileName _ hmem
  obtain ⟨front, hfront, hjoin⟩ := FilePath.exists_join hne name
  have hjoinNul : (FilePath.join directory name).contains '\x00' = false := by
    have hfrontNul : '\x00' ∉ front := by
      rcases hfront with rfl | hfront
      · exact hnul
      · rw [hfront] at hnul
        exact fun h => hnul (List.mem_append_left _ h)
    rw [String.contains_char_eq, hjoin]
    simp [hfrontNul, hname.nul_notMem]
  have hjoinNe : (FilePath.join directory name).isEmpty = false := by
    rw [← Bool.not_eq_true, String.isEmpty_iff, ← String.toList_eq_nil_iff, hjoin]
    simp
  have hstart : tree.start (FilePath.join directory name) = tree.start directory := by
    rw [start, start, FilePath.startsWith_join hne]
  rw [resolve, hjoinNul, hjoinNe, hstart, FilePath.names_join hne hname,
    walk_append hwalk hname (FileNode.entry?_of_mem hentries hmem) hfile,
    FilePath.meansDirectory_join hne hname]
  rfl

end FileTree

end LogPattern
