import LogPattern.Proofs.Pattern.Spelling
import LogPattern.Proofs.Registry.Views

/-!
# Patterns over the standard library

Every fragment of the standard library reads as a whole inside its group, so whatever
text is put together from them compiles as a composition, up to its size.
-/

namespace LogPattern

/-! ## The fragments, character by character -/

/-- An entry with its texts given character by character. -/
inductive Spelled : String × String → List Char × List Char → Prop
  | mk (name fragment : List Char) :
      Spelled (String.ofList name, String.ofList fragment) (name, fragment)

theorem Spelled.exists_of_mem {entries : List (String × String)} {table : FragmentTable}
    (h : List.Forall₂ Spelled entries table) {entry : String × String} (hentry : entry ∈ entries) :
    ∃ spelled ∈ table, Spelled entry spelled := by
  induction h with
  | nil => cases hentry
  | cons hfirst _ ih =>
      rcases List.mem_cons.1 hentry with rfl | hrest
      · exact ⟨_, List.mem_cons_self, hfirst⟩
      · obtain ⟨spelled, hmem, hspelled⟩ := ih hrest
        exact ⟨spelled, List.mem_cons_of_mem _ hmem, hspelled⟩

theorem FragmentTable.spells_of_spelled {entries : List (String × String)} {table : FragmentTable}
    (h : List.Forall₂ Spelled entries table) (name : List Char) :
    (entries.find? (·.1 = String.ofList name)).map (·.2) =
      (table.fragment? name).map String.ofList := by
  unfold fragment?
  induction h with
  | nil => rfl
  | @cons _ _ entries table hentry hrest ih =>
      obtain ⟨first, fragment⟩ := hentry
      by_cases hname : first = name
      · simp [hname]
      · have hother : String.ofList first ≠ String.ofList name := fun heq =>
          hname (String.ofList_injective heq)
        simpa [List.find?_cons, hname, hother] using ih

set_option maxRecDepth 20000 in
/-- The fragments of the standard library pass the checks of a table. -/
theorem Builtin.exists_table :
    ∃ table, List.Forall₂ Spelled patterns table ∧ FragmentTable.check table.reverse 49 = true := by
  -- the table is what the texts turn out to be when they are spelled
  apply Exists.intro
  apply And.intro
  · simp only [patterns, basicPatterns, networkPatterns, locationPatterns, timePatterns,
      logPatterns, List.cons_append, List.nil_append, String.intercalate_cons_cons,
      String.intercalate_singleton, String.reduceAppend]
    repeat' constructor
  · decide +kernel

/-! ## Texts over the standard library -/

open Regex

namespace Registry

theorem exists_builtins_table :
    ∃ table : FragmentTable, table.Spells builtins.lookup? ∧
      ∀ name ∈ Builtin.patterns.map (·.1), ∃ spelled, name = String.ofList spelled ∧
        table.closes 50 spelled = true ∧
        FragmentTable.readsWhole (table.contentPieces 49 spelled) = true := by
  obtain ⟨table, hspelled, hcheck⟩ := Builtin.exists_table
  have hreversed := List.forall₂_reverse_iff.2 hspelled
  refine ⟨table.reverse, fun name => ?_, fun name hname => ?_⟩
  · have hempty : empty.lookup? (String.ofList name) = none := Std.TreeMap.getElem?_emptyc
    rw [builtins, lookup?_foldl_put, hempty, Option.or_none]
    exact FragmentTable.spells_of_spelled hreversed name
  · obtain ⟨entry, hentry, rfl⟩ := List.mem_map.1 hname
    obtain ⟨spelled, hmem, hentry⟩ := Spelled.exists_of_mem hspelled hentry
    cases hentry with
    | mk name fragment =>
        have hboth := List.all_eq_true.1 hcheck _ (List.mem_reverse.2 hmem)
        exact ⟨name, rfl, Bool.and_eq_true_iff.1 hboth⟩

theorem builtins_countable {name : String} (h : name ∈ Builtin.patterns.map (·.1)) :
    ∃ final, Countable builtins.lookup? 49 name final := by
  obtain ⟨table, hspells, hall⟩ := exists_builtins_table
  obtain ⟨spelled, rfl, -, hreads⟩ := hall name h
  exact hspells.exists_countable hreads

theorem builtins_resolvable {text : String}
    (h : ∀ name ∈ mentions text, name ∈ Builtin.patterns.map (·.1)) :
    Resolvable builtins.lookup? defaultMaxDepth text := by
  obtain ⟨table, hspells, hall⟩ := exists_builtins_table
  refine CompiledPattern.resolvable_of_ways fun start hstart way hway => ?_
  obtain ⟨spelled, rfl, hcloses, -⟩ := hall start (h start hstart)
  exact hspells.way_of_closes hcloses hway

end Registry

/--
A text whose tokens all name fragments of the standard library, and whose expansion is
short enough, is expanded to a regular expression that is the sequence of its segments'
items: anchors and characters for literals, and for every token a group with the
fragment's own tree in it.  A pattern that comes of it has this text, and its search program
is that of this tree.  Only the size of the program can still be refused.
-/
theorem CompiledPattern.standard_library_composes {text : String} (htext : text ≠ "")
    (hnames : ∀ name ∈ mentions text, name ∈ Builtin.patterns.map (·.1))
    (hlength : (String.ofList (Piece.textFrom 0
      (Expansion.pieces Registry.builtins.lookup? defaultMaxDepth text))).utf8ByteSize ≤
        maxExpandedLength) :
    (∃ expansion items,
      Expansion.ofText Registry.builtins.lookup? defaultMaxDepth text = .ok expansion ∧
      Tree.ofText? expansion.text.toList = .ok (Tree.ofItems items) ∧
      Composes Registry.builtins.lookup? defaultMaxDepth
        (IsRenumbered Registry.builtins.lookup? 49) true 0 0 (segments text) items ∧
      ∀ pattern, compile Registry.builtins.lookup? defaultMaxDepth text = .ok pattern →
        pattern.expanded = expansion.text ∧
          ∃ e, (Tree.ofItems items).expr = .ok e ∧
            pattern.regex = ⟨e.program, e.captureCount⟩) ∧
    ∀ e, compile Registry.builtins.lookup? defaultMaxDepth text = .error e →
      e = .invalidRegex (.refused .programTooLarge) := by
  have hparts (token : Token) (htoken : .token token ∈ segments text) :
      ∃ final, Countable Registry.builtins.lookup? 49 token.name final :=
    Registry.builtins_countable (hnames _ (mem_mentions.2 ⟨token, htoken, rfl⟩))
  obtain ⟨expansion, hexpansion⟩ :=
    Expansion.exists_ofText htext (Registry.builtins_resolvable hnames) hlength
  obtain ⟨items, htree, hcomposes⟩ := ofText_segments true fun token htoken =>
    (hparts token htoken).imp fun _ hfinal => hfinal.toContained
  have hread : Tree.ofText? expansion.text.toList = .ok (Tree.ofItems items) :=
    (Expansion.ofText_writes hexpansion).1 ▸ htree
  refine ⟨⟨expansion, items, hexpansion, hread, hcomposes, fun pattern hpattern => ?_⟩,
    fun e he => compile_error_of_countable hparts hexpansion he⟩
  obtain ⟨other, hother, hexpanded, -, hregex, -⟩ := compile_inv hpattern
  cases hexpansion.symm.trans hother
  obtain ⟨tree, e, htree, hexpr, -, hprogram⟩ := Regex.ofText?_eq_ok_iff.1 hregex
  rw [hexpanded, hread] at htree
  cases htree
  exact ⟨hexpanded, e, hexpr, hprogram⟩

theorem CompiledPattern.standard_library_composes_nested_fields :
    let text := "^%{SYSLOGPROG:prog}: +\\$"
    text ≠ "" ∧ (∀ name ∈ mentions text, name ∈ Builtin.patterns.map (·.1)) ∧
      (String.ofList (Piece.textFrom 0
        (Expansion.pieces Registry.builtins.lookup? defaultMaxDepth text))).utf8ByteSize ≤
          maxExpandedLength ∧
      ∃ pattern e items,
        compile Registry.builtins.lookup? defaultMaxDepth text = .ok pattern ∧
        Tree.ofText? pattern.expanded.toList = .ok (Tree.ofItems items) ∧
        (Tree.ofItems items).expr = .ok e ∧ pattern.regex = ⟨e.program, e.captureCount⟩ ∧
        Composes Registry.builtins.lookup? defaultMaxDepth
          (IsRenumbered Registry.builtins.lookup? 49) true 0 0 (segments text) items := by
  intro text
  have htext : text ≠ "" := by decide
  have hnames : ∀ name ∈ mentions text, name ∈ Builtin.patterns.map (·.1) := by decide +kernel
  have hlength : (String.ofList (Piece.textFrom 0
      (Expansion.pieces Registry.builtins.lookup? defaultMaxDepth text))).utf8ByteSize ≤
        maxExpandedLength := by decide +kernel
  have hcompiles : (compile Registry.builtins.lookup? defaultMaxDepth text).toOption.any
      (fun _ => true) = true := by decide +kernel
  obtain ⟨pattern, hpattern, -⟩ := except_exists_ok hcompiles
  obtain ⟨expansion, items, -, htree, hcomposes, hcompiled⟩ :=
    (standard_library_composes htext hnames hlength).1
  obtain ⟨hexpanded, e, hexpr, hregex⟩ := hcompiled pattern hpattern
  exact ⟨htext, hnames, hlength, pattern, e, items, hpattern, hexpanded ▸ htree, hexpr, hregex,
    hcomposes⟩

end LogPattern
