import LogPattern.Proofs.Settings.Checks
import LogPattern.Proofs.Settings.Values
import LogPattern.Proofs.Success
import LogPattern.Settings.Load
import Mathlib

/-!
# Layers of settings

Every setting comes from the uppermost layer that has it: the environment, the file, and
below them the usual settings.  A variable that cannot be read does not count, and is
reported.  The file must be right as it stands, and so must what comes out in the end.
-/

namespace LogPattern

open Toml

/-! ## The file -/

/-- A setting is what the document gives, or the usual value where the document gives none. -/
inductive Given {α : Type} (read : Value → Option α) (usual : α) (value? : Option Value) :
    α → Prop
  | missing (h : value? = none) : Given read usual value? usual
  | written {value : Value} {setting : α} (h : value? = some value)
      (hread : read value = some setting) : Given read usual value? setting

def settingIn (members : List (String × Value)) (part : String) (place : Nat) (name : String) :
    Option Value :=
  ((members.lookup part).bind Record.ofValue?).bind (·.get? place name)

namespace Settings

/-- The settings that a document gives. -/
structure IsWritten (members : List (String × Value)) (file : Settings) : Prop where
  logLevel : Given Value.text? "info" (settingIn members "general" 0 "log_level")
    file.general.logLevel
  logFormat : Given Value.text? "pretty" (settingIn members "general" 1 "log_format")
    file.general.logFormat
  maxRecursionDepth : Given Value.size? 50 (settingIn members "engine" 0 "max_recursion_depth")
    file.engine.maxRecursionDepth
  workerThreads : Given Value.size? 0 (settingIn members "engine" 1 "worker_threads")
    file.engine.workerThreads
  parallelThreshold : Given Value.size? 256 (settingIn members "engine" 2 "parallel_threshold")
    file.engine.parallelThreshold
  maxLines : Given Value.size? 100000 (settingIn members "engine" 3 "max_lines")
    file.engine.maxLines
  patternDirs : Given Value.texts? [] (settingIn members "engine" 4 "pattern_dirs")
    file.engine.patternDirs
  customPatterns : Given Value.textTable? ∅ (settingIn members "engine" 5 "custom_patterns")
    file.engine.customPatterns

end Settings

section Reading

variable {α : Type} {members : List (String × Value)} {part name : String} {place place' : Nat}
  {record : Record} {usual setting : α} {read : Value → Option α}

theorem settingIn_of_missing (h : members.lookup part = none) :
    settingIn members part place name = none := by
  rw [settingIn, h]
  rfl

theorem settingIn_of_record {value : Value} (h : members.lookup part = some value)
    (hrecord : Record.ofValue? value = some record) :
    settingIn members part place name = record.get? place name := by
  rw [settingIn, h, Option.bind_some, hrecord, Option.bind_some]

theorem given_of_read? (h : record.read? place name usual read = some setting) :
    Given read usual (record.get? place name) setting := by
  unfold Record.read? at h
  split at h
  · next hnone =>
      cases h
      exact .missing hnone
  · next value hvalue => exact .written hvalue h

end Reading

theorem GeneralSettings.ofToml?_inv {value : Value} {general : GeneralSettings}
    (h : GeneralSettings.ofToml? value = some general) :
    ∃ record, Record.ofValue? value = some record ∧
      Given Value.text? "info" (record.get? 0 "log_level") general.logLevel ∧
      Given Value.text? "pretty" (record.get? 1 "log_format") general.logFormat := by
  simp only [GeneralSettings.ofToml?, Option.bind_eq_bind, Option.bind_eq_some_iff,
    Option.pure_def, Option.some.injEq] at h
  obtain ⟨record, hrecord, level, hlevel, format, hformat, rfl⟩ := h
  exact ⟨record, hrecord, given_of_read? hlevel, given_of_read? hformat⟩

theorem EngineSettings.ofToml?_inv {value : Value} {engine : EngineSettings}
    (h : EngineSettings.ofToml? value = some engine) :
    ∃ record, Record.ofValue? value = some record ∧
      Given Value.size? 50 (record.get? 0 "max_recursion_depth") engine.maxRecursionDepth ∧
      Given Value.size? 0 (record.get? 1 "worker_threads") engine.workerThreads ∧
      Given Value.size? 256 (record.get? 2 "parallel_threshold") engine.parallelThreshold ∧
      Given Value.size? 100000 (record.get? 3 "max_lines") engine.maxLines ∧
      Given Value.texts? [] (record.get? 4 "pattern_dirs") engine.patternDirs ∧
      Given Value.textTable? ∅ (record.get? 5 "custom_patterns") engine.customPatterns := by
  simp only [EngineSettings.ofToml?, Option.bind_eq_bind, Option.bind_eq_some_iff,
    Option.pure_def, Option.some.injEq] at h
  obtain ⟨record, hrecord, depth, hdepth, workers, hworkers, threshold, hthreshold, lines, hlines,
    directories, hdirectories, patterns, hpatterns, rfl⟩ := h
  exact ⟨record, hrecord, given_of_read? hdepth, given_of_read? hworkers,
    given_of_read? hthreshold, given_of_read? hlines, given_of_read? hdirectories,
    given_of_read? hpatterns⟩

namespace Settings

variable {environment : Environment} {below merged : Settings} {path text : String}
  {tree : FileTree}

theorem isWritten_of_parse (h : parse text = .ok below) :
    ∃ members, document? text = some members ∧ below.IsWritten members := by
  have h : ofText? text = some below := by
    unfold parse at h
    split at h
    · next hread =>
        cases h
        exact hread
    · cases h
  simp only [ofText?, Option.bind_eq_bind, Option.bind_eq_some_iff, Option.pure_def,
    Option.some.injEq] at h
  obtain ⟨members, hmembers, general, hgeneral, engine, hengine, rfl⟩ := h
  have hlevel : Given Value.text? "info" (settingIn members "general" 0 "log_level")
        general.logLevel ∧
      Given Value.text? "pretty" (settingIn members "general" 1 "log_format")
        general.logFormat := by
    cases given_of_read? hgeneral with
    | missing hnone =>
        exact ⟨.missing (settingIn_of_missing hnone), .missing (settingIn_of_missing hnone)⟩
    | written hvalue hread =>
        obtain ⟨record, hrecord, hlevel, hformat⟩ := GeneralSettings.ofToml?_inv hread
        rw [settingIn_of_record hvalue hrecord, settingIn_of_record hvalue hrecord]
        exact ⟨hlevel, hformat⟩
  refine ⟨members, hmembers, ?_⟩
  cases given_of_read? hengine with
  | missing hnone =>
      have hmissing (place : Nat) (name : String) : settingIn members "engine" place name = none :=
        settingIn_of_missing hnone
      exact ⟨hlevel.1, hlevel.2, .missing (hmissing _ _), .missing (hmissing _ _),
        .missing (hmissing _ _), .missing (hmissing _ _), .missing (hmissing _ _),
        .missing (hmissing _ _)⟩
  | written hvalue hread =>
      obtain ⟨record, hrecord, hdepth, hworkers, hthreshold, hlines, hdirectories, hpatterns⟩ :=
        EngineSettings.ofToml?_inv hread
      have hsetting (place : Nat) (name : String) :
          settingIn members "engine" place name = record.get? place name :=
        settingIn_of_record hvalue hrecord
      exact ⟨hlevel.1, hlevel.2, hsetting _ _ ▸ hdepth, hsetting _ _ ▸ hworkers,
        hsetting _ _ ▸ hthreshold, hsetting _ _ ▸ hlines, hsetting _ _ ▸ hdirectories,
        hsetting _ _ ▸ hpatterns⟩

end Settings

/-! ## The environment -/

/--
A variable decides about a setting: its value, if it spells one, and else the setting below
stays.
-/
inductive Decides {α : Type} (spells : String → α → Prop) (value? : Option String) (below : α) :
    α → Prop
  | unset (h : value? = none) : Decides spells value? below below
  | spelled {text : String} {setting : α} (h : value? = some text)
      (hspells : spells text setting) : Decides spells value? below setting
  | unreadable {text : String} (h : value? = some text)
      (hnone : ∀ setting, ¬ spells text setting) : Decides spells value? below below

theorem decides_iff {α : Type} {spells : String → α → Prop} (read : String → Option α)
    (hread : ∀ text setting, spells text setting ↔ read text = some setting)
    {value? : Option String} {below setting : α} :
    Decides spells value? below setting ↔ setting = (value?.bind read).getD below := by
  constructor
  · intro h
    cases h with
    | unset h => rw [h]; rfl
    | spelled h hspells => rw [h, Option.bind_some, (hread _ _).1 hspells]; rfl
    | @unreadable text h hnone =>
        have hunread : read text = none := Option.eq_none_iff_forall_ne_some.2
          fun setting hsome => hnone setting ((hread _ _).2 hsome)
        rw [h, Option.bind_some, hunread]
        rfl
  · rintro rfl
    cases value? with
    | none => exact .unset rfl
    | some text =>
        rw [Option.bind_some]
        cases hvalue : read text with
        | none =>
            refine .unreadable rfl fun setting hspells => ?_
            rw [(hread _ _).1 hspells] at hvalue
            cases hvalue
        | some setting => exact .spelled rfl ((hread _ _).2 hvalue)

namespace Settings

/-- Each setting that a variable may give is decided by that variable, and the others stay. -/
structure IsOverlay (environment : Environment) (below merged : Settings) : Prop where
  logLevel : Decides Eq (environment logLevelKey) below.general.logLevel merged.general.logLevel
  logFormat : Decides Eq (environment logFormatKey) below.general.logFormat
    merged.general.logFormat
  maxRecursionDepth : Decides SpellsSize (environment maxRecursionDepthKey)
    below.engine.maxRecursionDepth merged.engine.maxRecursionDepth
  workerThreads : Decides SpellsSize (environment workerThreadsKey) below.engine.workerThreads
    merged.engine.workerThreads
  parallelThreshold : Decides SpellsSize (environment parallelThresholdKey)
    below.engine.parallelThreshold merged.engine.parallelThreshold
  maxLines : Decides SpellsSize (environment maxLinesKey) below.engine.maxLines
    merged.engine.maxLines
  patternDirs : Decides SpellsList (environment patternDirsKey) below.engine.patternDirs
    merged.engine.patternDirs
  customPatterns : merged.engine.customPatterns = below.engine.customPatterns

variable {environment : Environment} {below merged : Settings} {path text : String}
  {tree : FileTree}

theorem decides_text {key old new : String} :
    Decides Eq (environment key) old new ↔ new = environment.text key old := by
  rw [decides_iff some fun text setting => Option.some_inj.symm, Environment.text]
  cases environment key <;> rfl

theorem decides_size {key : String} {old new : Nat} :
    Decides SpellsSize (environment key) old new ↔ new = environment.size key old :=
  decides_iff readSize? fun _ _ => readSize?_eq_some_iff.symm

theorem decides_list {key : String} {old new : List String} :
    Decides SpellsList (environment key) old new ↔ new = environment.list key old := by
  have hread (text : String) (items : List String) :
      SpellsList text items ↔ some (Environment.commaList text) = some items := by
    rw [spellsList_iff, Option.some_inj, eq_comm]
  rw [decides_iff (some ∘ Environment.commaList) hread, Environment.list, Option.map_eq_bind]

/-- There is one overlay, the one that is made. -/
theorem isOverlay_iff :
    IsOverlay environment below merged ↔ merged = below.override environment := by
  constructor
  · intro h
    obtain ⟨⟨level, format⟩, depth, workers, threshold, lines, directories, patterns⟩ := merged
    have hlevel := decides_text.1 h.logLevel
    have hformat := decides_text.1 h.logFormat
    have hdepth := decides_size.1 h.maxRecursionDepth
    have hworkers := decides_size.1 h.workerThreads
    have hthreshold := decides_size.1 h.parallelThreshold
    have hlines := decides_size.1 h.maxLines
    have hdirectories := decides_list.1 h.patternDirs
    have hpatterns := h.customPatterns
    dsimp only at *
    subst hlevel hformat hdepth hworkers hthreshold hlines hdirectories hpatterns
    rfl
  · rintro rfl
    exact ⟨decides_text.2 rfl, decides_text.2 rfl, decides_size.2 rfl, decides_size.2 rfl,
      decides_size.2 rfl, decides_size.2 rfl, decides_list.2 rfl, rfl⟩

/-! ### Warnings -/

def sizeKeys : List String :=
  [maxRecursionDepthKey, workerThreadsKey, parallelThresholdKey, maxLinesKey]

/-- There is one warning for each variable that should give a size and does not. -/
structure IsWarned (environment : Environment) (events : List LogEvent) : Prop where
  nodup : events.Nodup
  mem_iff : ∀ event, event ∈ events ↔ ∃ key ∈ sizeKeys, ∃ value, environment key = some value ∧
    (∀ size, ¬ SpellsSize value size) ∧ event = Environment.unreadableSize key value

theorem sizeWarning?_eq_some_iff {key : String} {event : LogEvent} :
    environment.sizeWarning? key = some event ↔ ∃ value, environment key = some value ∧
      (∀ size, ¬ SpellsSize value size) ∧ event = Environment.unreadableSize key value := by
  unfold Environment.sizeWarning?
  cases hvalue : environment key with
  | none => simp
  | some value =>
      have hspells : (∀ size, ¬ SpellsSize value size) ↔ ¬ (readSize? value).isSome = true := by
        rw [Option.isSome_iff_exists, not_exists]
        exact forall_congr' fun size => not_congr readSize?_eq_some_iff.symm
      dsimp only
      rw [Option.ite_none_left_eq_some, ← hspells, Option.some.injEq]
      constructor
      · rintro ⟨hnone, rfl⟩
        exact ⟨value, rfl, hnone, rfl⟩
      · rintro ⟨_, hsame, hnone, rfl⟩
        cases hsame
        exact ⟨hnone, rfl⟩

theorem isWarned_overrideWarnings (environment : Environment) :
    IsWarned environment (overrideWarnings environment) where
  nodup := by
    have hkeys : sizeKeys.Nodup := by decide
    refine hkeys.filterMap fun key key' event hevent hevent' => ?_
    obtain ⟨value, -, -, rfl⟩ := sizeWarning?_eq_some_iff.1 hevent
    obtain ⟨value', -, -, heq⟩ := sizeWarning?_eq_some_iff.1 hevent'
    have hfields := congrArg LogEvent.fields heq
    simp only [Environment.unreadableSize, List.cons.injEq, Prod.mk.injEq, LogValue.text.injEq,
      true_and] at hfields
    exact hfields.1
  mem_iff event := by
    rw [overrideWarnings, List.mem_filterMap]
    exact exists_congr fun key => and_congr_right fun _ => sizeWarning?_eq_some_iff

/-! ## Loading -/

/-- Settings that the program can work with. -/
structure Valid (settings : Settings) : Prop where
  level : settings.general.logLevel ∈ ["trace", "debug", "info", "warn", "error"]
  format : settings.general.logFormat ∈ ["json", "pretty"]
  depth : 1 ≤ settings.engine.maxRecursionDepth ∧ settings.engine.maxRecursionDepth ≤ 1000
  lines : 0 < settings.engine.maxLines
  names : ∀ name ∈ settings.engine.customPatterns.keys, isPatternName name = true

theorem check_eq_ok_iff {settings : Settings} : settings.check = .ok () ↔ settings.Valid := by
  have hcheck : settings.check = .ok () ↔ ∀ rule ∈ settings.rules, rule.holds = true := by
    rw [← SettingRule.firstBroken?_eq_none_iff, check]
    cases SettingRule.firstBroken? settings.rules <;> simp
  have hone (field value : String) (values : List String) :
      (SettingRule.oneOf field value values).holds = true ↔ value ∈ values :=
    List.contains_iff_mem
  have hdepth (field : String) (value : Nat) :
      (SettingRule.depth field value).holds = true ↔ 1 ≤ value ∧ value ≤ 1000 := by
    rw [SettingRule.depth, Bool.and_eq_true, decide_eq_true_eq, decide_eq_true_eq]
    rfl
  have hpositive (field : String) (value : Nat) :
      (SettingRule.positive field value).holds = true ↔ 0 < value := decide_eq_true_iff
  rw [hcheck, rules, List.forall_mem_append, List.forall_mem_map]
  simp only [List.forall_mem_cons, hone, hdepth, hpositive]
  constructor
  · rintro ⟨⟨hlevel, hformat, hdepth, hlines, -⟩, hnames⟩
    exact ⟨hlevel, hformat, hdepth, hlines, hnames⟩
  · rintro ⟨hlevel, hformat, hdepth, hlines, hnames⟩
    exact ⟨⟨hlevel, hformat, hdepth, hlines, by simp⟩, hnames⟩

instance (settings : Settings) : Decidable settings.Valid :=
  decidable_of_iff (settings.check = .ok ()) check_eq_ok_iff

theorem checked_eq_ok_iff {settings settings' : Settings} :
    settings.checked = .ok settings' ↔ settings' = settings ∧ settings.Valid := by
  rw [← check_eq_ok_iff, checked]
  cases settings.check with
  | error e => simp [Except.map]
  | ok _ => simp [Except.map, eq_comm]

theorem overridden_eq_ok_iff :
    (below.overridden environment).value = .ok merged ↔
      IsOverlay environment below merged ∧ merged.Valid := by
  rw [isOverlay_iff, overridden, checked_eq_ok_iff]
  exact and_congr_right fun heq => by rw [heq]

theorem ofFile_eq_ok_iff (h : tree.readText path = .ok text) {file : Settings} :
    ofFile tree path = .ok file ↔ parse text = .ok file ∧ file.Valid := by
  rw [ofFile, h]
  dsimp only
  cases parse text with
  | error e => simp [Except.bind]
  | ok parsed =>
      rw [Except.bind, checked_eq_ok_iff, Except.ok.injEq]
      constructor
      · rintro ⟨rfl, hvalid⟩
        exact ⟨rfl, hvalid⟩
      · rintro ⟨rfl, hvalid⟩
        exact ⟨rfl, hvalid⟩

theorem load_eq_of_ofFile {file : Settings} (h : ofFile tree path = .ok file) :
    load tree environment path = file.overridden environment := by
  rw [load, h]

theorem load_eq_of_error {e : SettingsError} (h : ofFile tree path = .error e) :
    load tree environment path = ⟨.error e, []⟩ := by
  rw [load, h]

/-- A file that can be read is not missing, whatever is wrong with it. -/
theorem loadOrDefault_eq_of_readText (h : tree.readText path = .ok text) :
    loadOrDefault tree environment path = load tree environment path := by
  unfold loadOrDefault
  dsimp only
  split
  · next missing hmissing =>
      have herror : ∀ settings : Settings, settings.checked ≠ .error (.fileNotFound missing) := by
        intro settings herror
        have hcheck := except_map_eq_error herror
        unfold check at hcheck
        split at hcheck <;> cases hcheck
      cases hfile : ofFile tree path with
      | ok file =>
          rw [load_eq_of_ofFile hfile] at hmissing
          exact absurd hmissing (herror _)
      | error e =>
          rw [load_eq_of_error hfile] at hmissing
          cases hmissing
          rw [ofFile, h] at hfile
          rcases except_bind_eq_error hfile with hparse | ⟨file, -, hchecked⟩
          · unfold parse at hparse
            split at hparse <;> cases hparse
          · exact absurd hchecked (herror file)
  · rfl

theorem load_eq_ok_iff (h : tree.readText path = .ok text) :
    (load tree environment path).value = .ok merged ↔
      ∃ file, parse text = .ok file ∧ file.Valid ∧ IsOverlay environment file merged ∧
        merged.Valid := by
  constructor
  · intro hload
    cases hfile : ofFile tree path with
    | error e =>
        rw [load_eq_of_error hfile] at hload
        cases hload
    | ok file =>
        rw [load_eq_of_ofFile hfile, overridden_eq_ok_iff] at hload
        obtain ⟨hparse, hvalid⟩ := (ofFile_eq_ok_iff h).1 hfile
        exact ⟨file, hparse, hvalid, hload⟩
  · rintro ⟨file, hparse, hvalid, hmerged⟩
    rw [load_eq_of_ofFile ((ofFile_eq_ok_iff h).2 ⟨hparse, hvalid⟩)]
    exact overridden_eq_ok_iff.2 hmerged

theorem loadOrDefault_of_notFound (h : tree.readText path = .error .notFound) :
    load tree environment path = ⟨.error (.fileNotFound path), []⟩ ∧
      loadOrDefault tree environment path =
        ⟨(Settings.default.overridden environment).value,
          missingFile path :: overrideWarnings environment⟩ := by
  have hfile : ofFile tree path = .error (.fileNotFound path) := by rw [ofFile, h]
  have hload : load tree environment path = ⟨.error (.fileNotFound path), []⟩ :=
    load_eq_of_error hfile
  refine ⟨hload, ?_⟩
  rw [loadOrDefault, hload]
  rfl

theorem readText_conf (text : String) :
    FileTree.readText ⟨.directory [("conf", .file text.toUTF8)], []⟩ "conf" = .ok text :=
  FileTree.readText_of_resolve (by cbv)

/--
Loading puts the environment over the file, and the file over the usual settings.  The file
must be right by itself, as must what comes out.  Where no file is needed, the usual settings
stand in for one that does not exist.
-/
theorem load_layers (tree : FileTree) (environment : Environment) (path : String) :
    (∀ below, ∃ merged, IsOverlay environment below merged ∧
      ∀ other, IsOverlay environment below other → other = merged) ∧
    (∀ text, tree.readText path = .ok text →
      loadOrDefault tree environment path = load tree environment path ∧
      (∀ file, parse text = .ok file →
        ∃ members, document? text = some members ∧ file.IsWritten members) ∧
      (∀ merged, (load tree environment path).value = .ok merged ↔
        ∃ file, parse text = .ok file ∧ file.Valid ∧ IsOverlay environment file merged ∧
          merged.Valid) ∧
      ((∃ file, parse text = .ok file ∧ file.Valid) →
        IsWarned environment (load tree environment path).events) ∧
      ((¬ ∃ file, parse text = .ok file ∧ file.Valid) →
        (load tree environment path).events = [])) ∧
    (tree.readText path = .error .notFound →
      load tree environment path = ⟨.error (.fileNotFound path), []⟩ ∧
      (∀ merged, (loadOrDefault tree environment path).value = .ok merged ↔
        IsOverlay environment .default merged ∧ merged.Valid) ∧
      ∃ events, (loadOrDefault tree environment path).events = missingFile path :: events ∧
        IsWarned environment events) := by
  refine ⟨fun below => ⟨_, isOverlay_iff.2 rfl, fun other => isOverlay_iff.1⟩,
    fun text htext => ⟨loadOrDefault_eq_of_readText htext, fun file => isWritten_of_parse,
      fun merged => load_eq_ok_iff htext, ?_, fun hnone => ?_⟩, fun hmissing => ?_⟩
  · rintro ⟨file, hfile⟩
    rw [load_eq_of_ofFile ((ofFile_eq_ok_iff htext).2 hfile)]
    exact isWarned_overrideWarnings environment
  · cases hfile : ofFile tree path with
    | error e => rw [load_eq_of_error hfile]
    | ok file => exact absurd ⟨file, (ofFile_eq_ok_iff htext).1 hfile⟩ hnone
  · obtain ⟨hload, hdefault⟩ := loadOrDefault_of_notFound hmissing
    rw [hdefault]
    exact ⟨hload, fun merged => overridden_eq_ok_iff, _, rfl, isWarned_overrideWarnings environment⟩

/-- The depth from the environment, the number of lines from the file, and the rest as usual. -/
theorem load_layers_three :
    let text := "[engine]\nmax_lines = 5\nmax_recursion_depth = 20\n"
    let tree : FileTree := ⟨.directory [("conf", .file text.toUTF8)], []⟩
    let environment : Environment := fun key =>
      if key = maxRecursionDepthKey then some "+30" else if key = maxLinesKey then some "many"
      else if key = patternDirsKey then some "/a, /b," else none
    tree.readText "conf" = .ok text ∧
      ∃ merged, (load tree environment "conf").value = .ok merged ∧
        merged.engine.maxRecursionDepth = 30 ∧ merged.engine.maxLines = 5 ∧
        merged.engine.workerThreads = 0 ∧ merged.engine.patternDirs = ["/a", "/b"] ∧
        IsWarned environment (load tree environment "conf").events := by
  intro text tree environment
  have htext : tree.readText "conf" = .ok text := readText_conf text
  have hparses : (parse text).toOption.any (fun file => file.Valid ∧
      (file.override environment).Valid ∧ file.engine.maxLines = 5 ∧
        file.engine.workerThreads = 0) = true := by decide +kernel
  obtain ⟨file, hfile, htest⟩ := except_exists_ok hparses
  obtain ⟨hvalid, hmerged, hlines, hworkers⟩ := of_decide_eq_true htest
  obtain ⟨-, hreadable, -⟩ := load_layers tree environment "conf"
  obtain ⟨-, -, hload, hwarned, -⟩ := hreadable text htext
  have hdirectories : Environment.commaList "/a, /b," = ["/a", "/b"] := by
    rw [commaList_eq]
    decide +kernel
  exact ⟨htext, file.override environment,
    (hload _).2 ⟨file, hfile, hvalid, isOverlay_iff.2 rfl, hmerged⟩, by rfl, hlines, hworkers,
    hdirectories, hwarned ⟨file, hfile, hvalid⟩⟩

/-- A file that is wrong by itself is refused, though the environment would correct it. -/
theorem load_refuses_corrected_file :
    let text := "[engine]\nmax_lines = 0\n"
    let tree : FileTree := ⟨.directory [("conf", .file text.toUTF8)], []⟩
    let environment : Environment := fun key => if key = maxLinesKey then some "10" else none
    tree.readText "conf" = .ok text ∧
      ∃ file merged, parse text = .ok file ∧ IsOverlay environment file merged ∧ merged.Valid ∧
        (load tree environment "conf").value =
          .error (.invalidValue "engine.max_lines" "must be greater than 0") := by
  intro text tree environment
  have htext : tree.readText "conf" = .ok text := readText_conf text
  have hparses : (parse text).toOption.any (fun file => (file.override environment).Valid ∧
      error? file.check = some (.invalidValue "engine.max_lines" "must be greater than 0")) =
        true := by decide +kernel
  obtain ⟨file, hfile, htest⟩ := except_exists_ok hparses
  obtain ⟨hmerged, hcheck⟩ := of_decide_eq_true htest
  have hrefused : ofFile tree "conf" =
      .error (.invalidValue "engine.max_lines" "must be greater than 0") := by
    rw [ofFile, htext]
    dsimp only
    rw [hfile, Except.bind, checked, eq_error_of_error? hcheck, Except.map]
  exact ⟨htext, file, _, hfile, isOverlay_iff.2 rfl, hmerged,
    congrArg Logged.value (load_eq_of_error hrefused)⟩

end Settings

end LogPattern
