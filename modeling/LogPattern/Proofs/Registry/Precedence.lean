import LogPattern.Proofs.Registry.Directory
import LogPattern.Proofs.Registry.PatternText
import LogPattern.Proofs.Registry.Run
import LogPattern.Proofs.Settings.Checks
import LogPattern.Validation.Engine
import Mathlib

/-!
# Which definition of a name counts

A name can be defined in the standard library, in several files of several directories
and in the settings themselves.  The settings come before the directories, a later
directory, file or line before an earlier one, and all of them before the standard
library.  An engine made without a registry answers the same where there are no
directories.
-/

namespace LogPattern

/-! ## The patterns of directories -/

section Directories

variable {tree : FileTree} {directory : String} {patterns : List NamedFragment}

theorem exists_listing_of_loadPatternDirectory
    (h : (loadPatternDirectory tree directory).value = .ok patterns) :
    ∃ entries, tree.listing directory = .ok entries ∧
      patterns = (patternPaths directory entries).flatMap (patternsAt tree) := by
  cases hlisting : tree.listing directory with
  | error fault =>
      rw [loadPatternDirectory, hlisting] at h
      cases fault <;> cases h
  | ok entries =>
      rw [value_loadPatternDirectory hlisting] at h
      split at h
      · exact ⟨entries, rfl, (Except.ok.inj h).symm⟩
      · cases h

theorem exists_content_of_loadPatternFile {path : String} {file : Logged (List NamedFragment)}
    (h : loadPatternFile tree path = .ok file) : ∃ content, file = readPatterns content path := by
  rw [loadPatternFile] at h
  split at h
  · cases h
  · split at h
    · cases h
    · split at h
      · cases h
      · next content _ => exact ⟨content, (Except.ok.inj h).symm⟩

theorem isPatternName_of_mem_patternsAt {path : String} {pattern : NamedFragment}
    (h : pattern ∈ patternsAt tree path) : isPatternName pattern.name = true := by
  rw [patternsAt] at h
  split at h
  · next file hfile =>
      obtain ⟨content, rfl⟩ := exists_content_of_loadPatternFile hfile
      exact (isWritable_of_mem_readPatterns content path pattern h).name
  · cases h

theorem isPatternName_of_loadPatternDirectory
    (h : (loadPatternDirectory tree directory).value = .ok patterns) :
    ∀ pattern ∈ patterns, isPatternName pattern.name = true := by
  obtain ⟨entries, -, rfl⟩ := exists_listing_of_loadPatternDirectory h
  intro pattern hpattern
  obtain ⟨path, -, hpath⟩ := List.mem_flatMap.1 hpattern
  exact isPatternName_of_mem_patternsAt hpath

theorem directoryHolds_of_loadPatternDirectory
    (h : (loadPatternDirectory tree directory).value = .ok patterns) :
    ∃ entries, tree.listing directory = .ok entries ∧
      (IsListing entries → ∃ files, DirectoryHolds directory entries files patterns) := by
  obtain ⟨entries, hlisting, rfl⟩ := exists_listing_of_loadPatternDirectory h
  exact ⟨entries, hlisting, fun hentries => ⟨_, directoryHolds_patternFiles hlisting hentries⟩⟩

end Directories

namespace Registry

/-! ## Registering all the patterns -/

theorem value_registerLogged_eq_ok_iff {registry result : Registry}
    {patterns : List NamedFragment} :
    (registry.registerLogged patterns).value = .ok result ↔
      (∀ pattern ∈ patterns, isPatternName pattern.name = true) ∧
        registry.putAll patterns = result := by
  have hregistered := (registry.registerAll_eq patterns).1
  rw [← refusal_registerAll_eq_none_iff registry, registerLogged]
  dsimp only
  cases hrefusal : (registry.registerAll patterns).refusal with
  | some e => simp
  | none =>
      have hall := (refusal_registerAll_eq_none_iff registry).1 hrefusal
      rw [acceptedOf, List.takeWhile_eq_self_iff.2 hall] at hregistered
      simp [hregistered]

/-- The patterns of directories that can all be loaded, in the order of the directories. -/
def Loads (tree : FileTree) (directories : List String) (loads : List (List NamedFragment)) :
    Prop :=
  List.Forall₂
    (fun directory patterns => (loadPatternDirectory tree directory).value = .ok patterns)
    directories loads

theorem loads_cons {tree : FileTree} {directory : String} {rest : List String}
    {loads : List (List NamedFragment)} :
    Loads tree (directory :: rest) loads ↔
      ∃ patterns others, (loadPatternDirectory tree directory).value = .ok patterns ∧
        Loads tree rest others ∧ loads = patterns :: others :=
  List.forall₂_cons_left_iff

theorem value_addDirectories_cons (tree : FileTree) (directory : String) (rest : List String)
    (registry : Registry) :
    (addDirectories tree (directory :: rest) registry).value =
      (loadPatternDirectory tree directory).value >>= fun patterns =>
        (addDirectories tree rest (registry.putAll patterns)).value := by
  rw [addDirectories]
  dsimp only
  cases hload : (loadPatternDirectory tree directory).value with
  | error e => rfl
  | ok patterns =>
      -- what a directory holds is never refused, so loading is the only step that can fail
      have hregistered : (registry.registerLogged patterns).value =
          .ok (registry.putAll patterns) :=
        value_registerLogged_eq_ok_iff.2 ⟨isPatternName_of_loadPatternDirectory hload, rfl⟩
      dsimp only
      rw [hregistered]
      rfl

theorem exists_loads_iff {tree : FileTree} {directories : List String} :
    (∃ loads, Loads tree directories loads) ↔
      ∀ directory ∈ directories, ∃ patterns,
        (loadPatternDirectory tree directory).value = .ok patterns := by
  induction directories with
  | nil => simp [Loads]
  | cons directory rest ih =>
      rw [List.forall_mem_cons, ← ih]
      simp only [loads_cons]
      constructor
      · rintro ⟨_, patterns, others, hload, hothers, rfl⟩
        exact ⟨⟨patterns, hload⟩, others, hothers⟩
      · rintro ⟨⟨patterns, hload⟩, others, hothers⟩
        exact ⟨_, patterns, others, hload, hothers, rfl⟩

theorem value_addDirectories_eq_ok_iff {tree : FileTree} {directories : List String}
    {registry result : Registry} :
    (addDirectories tree directories registry).value = .ok result ↔
      ∃ loads, Loads tree directories loads ∧ registry.putAll loads.flatten = result := by
  induction directories generalizing registry with
  | nil =>
      rw [addDirectories]
      simp [Loads, putAll]
  | cons directory rest ih =>
      rw [value_addDirectories_cons, except_bind_eq_ok_iff]
      constructor
      · rintro ⟨patterns, hload, hrest⟩
        obtain ⟨others, hothers, rfl⟩ := ih.1 hrest
        exact ⟨_, loads_cons.2 ⟨patterns, others, hload, hothers, rfl⟩, putAll_append _ _ _⟩
      · rintro ⟨_, hloads, rfl⟩
        obtain ⟨patterns, others, hload, hothers, rfl⟩ := loads_cons.1 hloads
        exact ⟨patterns, hload, ih.2 ⟨others, hothers, (putAll_append _ _ _).symm⟩⟩

theorem value_ofSettings (tree : FileTree) (settings : EngineSettings) :
    (ofSettings tree settings).value =
      (addDirectories tree settings.patternDirs builtins).value >>= fun registry =>
        (registry.registerLogged settings.patterns).value := by
  rw [ofSettings]
  dsimp only
  cases (addDirectories tree settings.patternDirs builtins).value with
  | error e => rfl
  | ok registry =>
      dsimp only
      cases hregistered : (registry.registerLogged settings.patterns).value with
      | error e => exact hregistered.symm
      | ok result => exact hregistered.symm

theorem value_ofSettings_eq_ok_iff {tree : FileTree} {settings : EngineSettings}
    {result : Registry} :
    (ofSettings tree settings).value = .ok result ↔
      ∃ loads, Loads tree settings.patternDirs loads ∧
        (∀ pattern ∈ settings.patterns, isPatternName pattern.name = true) ∧
        builtins.putAll (loads.flatten ++ settings.patterns) = result := by
  rw [value_ofSettings, except_bind_eq_ok_iff]
  simp only [value_addDirectories_eq_ok_iff, value_registerLogged_eq_ok_iff]
  constructor
  · rintro ⟨_, ⟨loads, hloads, rfl⟩, hnames, rfl⟩
    exact ⟨loads, hloads, hnames, putAll_append _ _ _⟩
  · rintro ⟨loads, hloads, hnames, rfl⟩
    exact ⟨_, ⟨loads, hloads, rfl⟩, hnames, (putAll_append _ _ _).symm⟩

/-! ## Lookups -/

theorem lastFragment?_append (front back : List NamedFragment) (name : String) :
    lastFragment? (front ++ back) name =
      (lastFragment? back name).or (lastFragment? front name) := by
  rw [lastFragment?, List.reverse_append, List.find?_append, Option.map_or]
  rfl

theorem names_patterns_nodup (settings : EngineSettings) :
    (settings.patterns.map (·.name)).Nodup := by
  have hkeys : settings.patterns.map (·.name) = settings.customPatterns.keys := by
    rw [EngineSettings.patterns, List.map_map, ← Std.TreeMap.map_fst_toList_eq_keys]
    rfl
  rw [hkeys]
  exact Std.TreeMap.nodup_keys

theorem mem_patterns {settings : EngineSettings} {name fragment : String} :
    (⟨name, fragment⟩ : NamedFragment) ∈ settings.patterns ↔
      settings.customPatterns[name]? = some fragment := by
  rw [EngineSettings.patterns, ← Std.TreeMap.mem_toList_iff_getElem?_eq_some, List.mem_map]
  constructor
  · rintro ⟨entry, hentry, hsame⟩
    cases hsame
    exact hentry
  · exact fun hentry => ⟨_, hentry, rfl⟩

theorem lastFragment?_patterns (settings : EngineSettings) (name : String) :
    lastFragment? settings.patterns name = settings.customPatterns[name]? := by
  have hnodup := names_patterns_nodup settings
  refine Option.ext fun fragment => ?_
  rw [lastFragment?, find?_key_perm (List.reverse_perm _) hnodup, Option.map_eq_some_iff,
    ← mem_patterns]
  simp only [find?_key_eq_some_iff hnodup]
  constructor
  · rintro ⟨pattern, ⟨hmem, rfl⟩, rfl⟩
    exact hmem
  · exact fun hmem => ⟨_, ⟨hmem, rfl⟩, rfl⟩

theorem forall_patterns_iff {settings : EngineSettings} :
    (∀ pattern ∈ settings.patterns, isPatternName pattern.name = true) ↔
      ∀ name ∈ settings.customPatterns, isPatternName name = true := by
  constructor
  · intro h name hname
    rw [Std.TreeMap.mem_iff_isSome_getElem?] at hname
    obtain ⟨fragment, hfragment⟩ := Option.isSome_iff_exists.1 hname
    exact h _ (mem_patterns.2 hfragment)
  · intro h pattern hpattern
    refine h _ (Std.TreeMap.mem_iff_isSome_getElem?.2 ?_)
    rw [mem_patterns.1 hpattern]
    rfl

/-- The settings can be followed if all directories can be loaded and all names are right. -/
theorem exists_ofSettings_iff (tree : FileTree) (settings : EngineSettings) :
    (∃ registry, (ofSettings tree settings).value = .ok registry) ↔
      (∀ directory ∈ settings.patternDirs, ∃ patterns,
          (loadPatternDirectory tree directory).value = .ok patterns) ∧
        ∀ name ∈ settings.customPatterns, isPatternName name = true := by
  rw [← exists_loads_iff, ← forall_patterns_iff]
  simp only [value_ofSettings_eq_ok_iff]
  constructor
  · rintro ⟨_, loads, hloads, hnames, -⟩
    exact ⟨⟨loads, hloads⟩, hnames⟩
  · rintro ⟨⟨loads, hloads⟩, hnames⟩
    exact ⟨_, loads, hloads, hnames, rfl⟩

theorem lookup?_layers (settings : EngineSettings) (loads : List (List NamedFragment))
    (name : String) :
    (builtins.putAll (loads.flatten ++ settings.patterns)).lookup? name =
      settings.customPatterns[name]?.or
        ((lastFragment? loads.flatten name).or (Builtin.patterns.lookup name)) := by
  rw [lookup?_putAll, lastFragment?_append, lastFragment?_patterns, lookup?_builtins,
    Option.or_assoc]

/-- An engine that is given no registry makes the one of settings without directories. -/
theorem value_ofSettings_of_no_directories {tree : FileTree} {settings : EngineSettings}
    (h : settings.patternDirs = []) :
    (ofSettings tree settings).value = (ofCustomPatterns settings).value := by
  rw [value_ofSettings, h]
  rfl

end Registry

theorem EngineSettings.names_of_check {settings : EngineSettings}
    (h : settings.check = .ok ()) : ∀ name ∈ settings.customPatterns, isPatternName name = true := by
  intro name hname
  have hrule : SettingRule.patternName "custom_patterns" name
      "pattern name must contain only [A-Za-z0-9_]" ∈ settings.rules :=
    List.mem_append_right _ (List.mem_map.2 ⟨name, Std.TreeMap.mem_keys.2 hname, rfl⟩)
  unfold check at h
  split at h
  · next hnone => exact SettingRule.firstBroken?_eq_none_iff.1 hnone _ hrule
  · cases h

theorem Engine.value_ofSettings {settings : EngineSettings} (h : settings.check = .ok ())
    (workers : Nat) :
    (Engine.ofSettings settings workers).value =
      (Registry.ofCustomPatterns settings).value.map fun registry =>
        ⟨registry, settings, workers⟩ := by
  rw [Engine.ofSettings, h]

namespace Registry

/--
The settings come first, then the directories from the last to the first, each with its
files and their lines from the last to the first, and then the standard library.
-/
theorem ofSettings_precedence (tree : FileTree) (settings : EngineSettings) :
    ((∃ e, (ofSettings tree settings).value = .error e) ↔
      (∃ directory ∈ settings.patternDirs, ∃ e,
          (loadPatternDirectory tree directory).value = .error e) ∨
        ∃ name ∈ settings.customPatterns, isPatternName name = false) ∧
    ((∀ directory ∈ settings.patternDirs, ∃ patterns,
        (loadPatternDirectory tree directory).value = .ok patterns) →
      (∀ name ∈ settings.customPatterns, isPatternName name = true) →
      ∃ registry loads, (ofSettings tree settings).value = .ok registry ∧
        List.Forall₂ (fun directory patterns =>
            (loadPatternDirectory tree directory).value = .ok patterns ∧
              ∃ entries, tree.listing directory = .ok entries ∧
                (IsListing entries → ∃ files, DirectoryHolds directory entries files patterns))
          settings.patternDirs loads ∧
        ∀ name, registry.lookup? name =
          settings.customPatterns[name]?.or
            ((lastFragment? loads.flatten name).or (Builtin.patterns.lookup name))) ∧
    (settings.patternDirs = [] → settings.check = .ok () → ∀ workers, ∃ engine,
      (Engine.ofSettings settings workers).value = .ok engine ∧
        (ofSettings tree settings).value = .ok engine.registry) := by
  refine ⟨?_, fun hloaded hnames => ?_, fun hnone hcheck workers => ?_⟩
  · simp only [except_exists_error_iff, exists_ofSettings_iff, not_and_or, not_forall,
      exists_prop, Bool.not_eq_true]
  · obtain ⟨loads, hloads⟩ := exists_loads_iff.2 hloaded
    have hheld := hloads.imp fun directory patterns h =>
      And.intro h (directoryHolds_of_loadPatternDirectory h)
    have hregistry := value_ofSettings_eq_ok_iff.2
      ⟨loads, hloads, forall_patterns_iff.2 hnames, rfl⟩
    exact ⟨_, loads, hregistry, hheld, lookup?_layers settings loads⟩
  · have hnames := EngineSettings.names_of_check hcheck
    obtain ⟨registry, hregistry⟩ := (exists_ofSettings_iff tree settings).2
      ⟨by simp [hnone], hnames⟩
    refine ⟨⟨registry, settings, workers⟩, ?_, hregistry⟩
    rw [Engine.value_ofSettings hcheck, ← value_ofSettings_of_no_directories hnone, hregistry]
    rfl

/-- Here the settings, both directories and the standard library define names. -/
theorem ofSettings_precedence_layers :
    let first : List (String × FileNode) :=
      [("b", .file "WORD b\nX b".toUTF8), ("a", .file "WORD a\nX a\nX c\nY a".toUTF8)]
    let second : List (String × FileNode) := [("a", .file "Y d\nZ d".toUTF8)]
    let tree : FileTree := ⟨.directory [("p", .directory first), ("q", .directory second)], []⟩
    let settings := ((EngineSettings.default.addDirectory "p").addDirectory "q").addPattern "Z" "s"
    (∃ registry, (ofSettings tree settings).value = .ok registry ∧
      ["Z", "Y", "X", "WORD", "SPACE", "V"].map registry.lookup? =
        [some "s", some "d", some "b", some "b", some r"\s*", none]) ∧
      ∃ engine, (Engine.ofSettings .default 1).value = .ok engine ∧
        (ofSettings tree .default).value = .ok engine.registry := by
  intro first second tree settings
  refine ⟨?_, (ofSettings_precedence tree .default).2.2 rfl (by rfl) 1⟩
  have hfirst : tree.listing "p" = .ok first := by cbv
  have hsecond : tree.listing "q" = .ok second := by cbv
  have hfirstLoad : (loadPatternDirectory tree "p").value =
      .ok [⟨"WORD", "a"⟩, ⟨"X", "a"⟩, ⟨"X", "c"⟩, ⟨"Y", "a"⟩, ⟨"WORD", "b"⟩, ⟨"X", "b"⟩] := by
    have hpaths : patternPaths "p" first = ["p/a", "p/b"] := by cbv
    have ha : patternsAt tree "p/a" = [⟨"WORD", "a"⟩, ⟨"X", "a"⟩, ⟨"X", "c"⟩, ⟨"Y", "a"⟩] := by cbv
    have hb : patternsAt tree "p/b" = [⟨"WORD", "b"⟩, ⟨"X", "b"⟩] := by cbv
    rw [value_loadPatternDirectory hfirst, hpaths]
    simp [ha, hb, maxDirectoryPatterns]
  have hsecondLoad : (loadPatternDirectory tree "q").value = .ok [⟨"Y", "d"⟩, ⟨"Z", "d"⟩] := by
    have hpaths : patternPaths "q" second = ["q/a"] := by cbv
    have ha : patternsAt tree "q/a" = [⟨"Y", "d"⟩, ⟨"Z", "d"⟩] := by cbv
    rw [value_loadPatternDirectory hsecond, hpaths]
    simp [ha, maxDirectoryPatterns]
  have hdirectories : settings.patternDirs = ["p", "q"] := rfl
  have hcustom (name : String) :
      settings.customPatterns[name]? = if "Z" = name then some "s" else none := by
    have hinsert : settings.customPatterns = (∅ : Std.TreeMap String String).insert "Z" "s" := rfl
    simp [hinsert, Std.TreeMap.getElem?_insert]
  have hnames : ∀ name ∈ settings.customPatterns, isPatternName name = true := by
    intro name hname
    rw [Std.TreeMap.mem_iff_isSome_getElem?, hcustom] at hname
    split at hname
    · next hz => exact hz ▸ by decide
    · cases hname
  obtain ⟨registry, loads, hregistry, hloads, hlookup⟩ :=
    (ofSettings_precedence tree settings).2.1
      (by
        rw [hdirectories, List.forall_mem_cons, List.forall_mem_singleton]
        exact ⟨⟨_, hfirstLoad⟩, _, hsecondLoad⟩)
      hnames
  refine ⟨registry, hregistry, ?_⟩
  rw [hdirectories] at hloads
  obtain ⟨patterns, _, ⟨hpatterns, -⟩, hrest, rfl⟩ := List.forall₂_cons_left_iff.1 hloads
  obtain ⟨others, _, ⟨hothers, -⟩, hnone, rfl⟩ := List.forall₂_cons_left_iff.1 hrest
  obtain rfl := List.forall₂_nil_left_iff.1 hnone
  obtain rfl := Except.ok.inj (hpatterns.symm.trans hfirstLoad)
  obtain rfl := Except.ok.inj (hothers.symm.trans hsecondLoad)
  simp only [List.map_cons, List.map_nil, hlookup, hcustom]
  decide +kernel

end Registry

end LogPattern
