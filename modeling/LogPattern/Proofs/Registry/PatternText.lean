import LogPattern.Proofs.Pattern.Tokenize
import LogPattern.Proofs.Registry.Views
import LogPattern.Proofs.Text.Lines
import LogPattern.Registry.PatternFile
import Mathlib

/-!
# Patterns as text

Every line of a pattern file is empty of meaning, or is warned about, or defines one pattern.
Reading gives back the patterns of which a text has been written, and no others can be written.
-/

namespace LogPattern

/-! ## What a line says -/

structure IsWord (word : List Char) : Prop where
  ne_nil : word ≠ []
  black : ∀ c ∈ word, isWhite c = false
  unmarked : word.head? ≠ some '#'

/-- The line is a name and a fragment, with white space between them and perhaps around them. -/
structure NamesFragment (line name fragment : List Char) : Prop where
  parts : ∃ front gap back, line = front ++ (name ++ gap ++ fragment) ++ back ∧
    IsGap front ∧ IsGap gap ∧ gap ≠ [] ∧ IsGap back
  name : IsWord name
  trimmed : IsTrimmed fragment
  ne_nil : fragment ≠ []

/-- What a line with a number yields, as a line of the file `source`: patterns and warnings. -/
inductive LineYields (source : String) (number : Nat) :
    List Char → List NamedFragment → List LogEvent → Prop
  | blank {line : List Char} (hline : IsGap line) : LineYields source number line [] []
  | comment {front : List Char} (hfront : IsGap front) (rest : List Char) :
      LineYields source number (front ++ '#' :: rest) [] []
  | lone {front word back : List Char} (hfront : IsGap front) (hword : IsWord word)
      (hback : IsGap back) :
      LineYields source number (front ++ word ++ back) []
        [⟨.warn, "pattern definition has no regex, skipping",
          [("source", .text source), ("line", .number number)]⟩]
  | misnamed {line name fragment : List Char} (hline : NamesFragment line name fragment)
      (hname : isPatternName (String.ofList name) = false) :
      LineYields source number line []
        [⟨.warn, "invalid pattern name, skipping",
          [("source", .text source), ("line", .number number),
            ("name", .text (String.ofList name))]⟩]
  | definition {line name fragment : List Char} (hline : NamesFragment line name fragment)
      (hname : isPatternName (String.ofList name) = true) :
      LineYields source number line [⟨String.ofList name, String.ofList fragment⟩] []

theorem IsWord.isTrimmed {word : List Char} (h : IsWord word) : IsTrimmed word where
  head c hc := h.black c (List.mem_of_mem_head? hc)
  last c hc := h.black c (List.mem_of_mem_getLast? hc)

theorem IsWord.isTrimmed_append {name fragment : List Char} (hname : IsWord name)
    (htrimmed : IsTrimmed fragment) (hne : fragment ≠ []) (gap : List Char) :
    IsTrimmed (name ++ gap ++ fragment) where
  head c hc := by
    rw [List.append_assoc, List.head?_append_of_ne_nil _ hname.ne_nil] at hc
    exact hname.isTrimmed.head c hc
  last c hc := by
    rw [List.getLast?_append_of_ne_nil _ hne] at hc
    exact htrimmed.last c hc

namespace PatternLine

theorem ofText_of_trim {line : String} {text : List Char} (htrim : trim line.toList = text)
    (hne : text ≠ []) (hmark : text.head? ≠ some '#') :
    ofText line =
      match splitAtWhite text with
      | none => noFragment
      | some (name, rest) =>
          if isPatternName (String.ofList name) then
            definition ⟨String.ofList name, String.ofList (trimLeft rest)⟩
          else invalidName (String.ofList name) := by
  unfold ofText
  rw [htrim]
  dsimp only
  split
  · exact absurd rfl hne
  · exact absurd rfl hmark
  · rfl

theorem ofText_gap {line : List Char} (h : IsGap line) : ofText (String.ofList line) = nothing := by
  have hnone : IsGap [] := by simp [IsGap]
  have hempty : IsTrimmed [] := ⟨by simp, by simp⟩
  have htrim := trim_eq hnone hempty h
  rw [List.nil_append, List.nil_append] at htrim
  unfold ofText
  rw [String.toList_ofList, htrim]

theorem ofText_comment {front : List Char} (hfront : IsGap front) (rest : List Char) :
    ofText (String.ofList (front ++ '#' :: rest)) = nothing := by
  have hmark : isWhite '#' = false := by decide
  obtain ⟨text, back, rfl, htext, hback⟩ := exists_trimmed_of_black hmark rest
  have htrim := trim_eq hfront htext hback
  rw [List.append_assoc, List.cons_append] at htrim
  unfold ofText
  rw [String.toList_ofList, htrim]
  rfl

theorem ofText_word {front word back : List Char} (hfront : IsGap front) (hword : IsWord word)
    (hback : IsGap back) : ofText (String.ofList (front ++ word ++ back)) = noFragment := by
  have htrim : trim (String.ofList (front ++ word ++ back)).toList = word := by
    rw [String.toList_ofList, trim_eq hfront hword.isTrimmed hback]
  rw [ofText_of_trim htrim hword.ne_nil hword.unmarked, splitAtWhite_eq_none hword.black]

theorem ofText_of_namesFragment {line name fragment : List Char}
    (h : NamesFragment line name fragment) :
    ofText (String.ofList line) =
      if isPatternName (String.ofList name) then
        definition ⟨String.ofList name, String.ofList fragment⟩
      else invalidName (String.ofList name) := by
  obtain ⟨front, gap, back, rfl, hfront, hgap, hne, hback⟩ := h.parts
  have htrim := trim_eq hfront (h.name.isTrimmed_append h.trimmed h.ne_nil gap) hback
  obtain ⟨c, gap, rfl⟩ := List.exists_cons_of_ne_nil hne
  have hc : isWhite c = true := hgap c List.mem_cons_self
  have hrest : IsGap gap := fun d hd => hgap d (List.mem_cons_of_mem c hd)
  rw [← String.toList_ofList (l := front ++ _ ++ back)] at htrim
  have hnonempty : name ++ c :: gap ++ fragment ≠ [] := by simp
  have hmark : (name ++ c :: gap ++ fragment).head? ≠ some '#' := by
    rw [List.append_assoc, List.head?_append_of_ne_nil _ h.name.ne_nil]
    exact h.name.unmarked
  rw [ofText_of_trim htrim hnonempty hmark, List.append_assoc, List.cons_append,
    splitAtWhite_append h.name.black hc]
  simp only [trimLeft_append hrest, trimLeft_eq_self h.trimmed.head]

end PatternLine

/-! ## Every line -/

/-- A trimmed text with white space in it is a word, white space and a fragment. -/
theorem exists_namesFragment {text : List Char} (htext : IsTrimmed text)
    (hmark : text.head? ≠ some '#') (hwhite : ∃ c ∈ text, isWhite c = true) :
    ∃ name gap fragment, text = name ++ gap ++ fragment ∧ IsWord name ∧ IsGap gap ∧ gap ≠ [] ∧
      IsTrimmed fragment ∧ fragment ≠ [] := by
  obtain ⟨c, hfirst⟩ := Option.isSome_iff_exists.1 (List.find?_isSome.2 hwhite)
  obtain ⟨hc, name, rest, rfl, hblack⟩ := List.find?_eq_some_iff_append.1 hfirst
  obtain ⟨gap, hgap, hrest, hhead⟩ := exists_gap_trimLeft rest
  generalize trimLeft rest = fragment at hrest hhead
  subst hrest
  have hwide : IsGap (c :: gap) := List.forall_mem_cons.2 ⟨hc, hgap⟩
  -- the first white space is not at the start of the text, and the text does not end with it
  have hname : name ≠ [] := by
    rintro rfl
    have hnot := htext.head c rfl
    rw [hc] at hnot
    cases hnot
  have hne : fragment ≠ [] := by
    rintro rfl
    rw [List.append_nil] at htext
    have hgapne : c :: gap ≠ [] := List.cons_ne_nil c gap
    have hlast := htext.last _ (by
      rw [List.getLast?_append_of_ne_nil _ hgapne]
      exact List.getLast?_eq_some_getLast hgapne)
    rw [hwide _ (List.getLast_mem hgapne)] at hlast
    cases hlast
  have hunmarked : name.head? ≠ some '#' := by
    rwa [List.head?_append_of_ne_nil _ hname] at hmark
  refine ⟨name, c :: gap, fragment, by simp, ⟨hname, ?_, hunmarked⟩, hwide, List.cons_ne_nil c gap,
    ⟨hhead, fun d hd => htext.last d ?_⟩, hne⟩
  · simpa using hblack
  · rw [← List.cons_append, ← List.append_assoc, List.getLast?_append_of_ne_nil _ hne]
    exact hd

theorem exists_lineYields (source : String) (number : Nat) (line : List Char) :
    ∃ patterns events, LineYields source number line patterns events := by
  obtain ⟨front, text, back, rfl, hfront, htext, hback⟩ := exists_trimmed line
  by_cases hempty : text = []
  · subst hempty
    refine ⟨[], [], .blank fun c hc => ?_⟩
    rw [List.append_nil, List.mem_append] at hc
    exact hc.elim (hfront c) (hback c)
  · by_cases hmark : text.head? = some '#'
    · obtain ⟨rest, rfl⟩ := List.head?_eq_some_iff.1 hmark
      rw [List.append_assoc]
      exact ⟨[], [], .comment hfront (rest ++ back)⟩
    · by_cases hwhite : ∃ c ∈ text, isWhite c = true
      · obtain ⟨name, gap, fragment, rfl, hname, hgap, hgapne, hfragment, hne⟩ :=
          exists_namesFragment htext hmark hwhite
        have hline : NamesFragment (front ++ (name ++ gap ++ fragment) ++ back) name fragment :=
          ⟨⟨front, gap, back, rfl, hfront, hgap, hgapne, hback⟩, hname, hfragment, hne⟩
        cases hvalid : isPatternName (String.ofList name) with
        | false => exact ⟨_, _, .misnamed hline hvalid⟩
        | true => exact ⟨_, _, .definition hline hvalid⟩
      · have hword : IsWord text := ⟨hempty, by simpa using hwhite, hmark⟩
        exact ⟨_, _, .lone hfront hword hback⟩

def PatternLine.yield (source : String) (number : Nat) (line : List Char) :
    Logged (List NamedFragment) :=
  ⟨(ofText (String.ofList line)).pattern?.toList,
    ((ofText (String.ofList line)).warning? source number).toList⟩

theorem LineYields.eq_yield {source : String} {number : Nat} {line : List Char}
    {part : Logged (List NamedFragment)}
    (h : LineYields source number line part.value part.events) :
    part = PatternLine.yield source number line := by
  obtain ⟨patterns, events⟩ := part
  dsimp only at h
  rw [PatternLine.yield]
  cases h with
  | blank hline => rw [PatternLine.ofText_gap hline]; rfl
  | comment hfront rest => rw [PatternLine.ofText_comment hfront]; rfl
  | lone hfront hword hback => rw [PatternLine.ofText_word hfront hword hback]; rfl
  | misnamed hline hname => rw [PatternLine.ofText_of_namesFragment hline, hname]; rfl
  | definition hline hname => rw [PatternLine.ofText_of_namesFragment hline, hname]; rfl

theorem lineYields_yield (source : String) (number : Nat) (line : List Char) :
    LineYields source number line (PatternLine.yield source number line).value
      (PatternLine.yield source number line).events := by
  obtain ⟨patterns, events, h⟩ := exists_lineYields source number line
  have hpart : (⟨patterns, events⟩ : Logged (List NamedFragment)) = _ := LineYields.eq_yield h
  rwa [← hpart]

/-! ## Whole files -/

def PatternLine.yields (source : String) (number : Nat) (lines : List (List Char)) :
    List (Logged (List NamedFragment)) :=
  (lines.zipIdx number).map fun line => yield source line.2 line.1

theorem forall₂_yields (source : String) (number : Nat) (lines : List (List Char)) :
    List.Forall₂ (fun line (part : Logged (List NamedFragment)) =>
        LineYields source line.2 line.1 part.value part.events)
      (lines.zipIdx number) (PatternLine.yields source number lines) := by
  rw [PatternLine.yields, List.forall₂_map_right_iff, List.forall₂_same]
  exact fun line _ => lineYields_yield source line.2 line.1

theorem flatMap_value_yields (source : String) (number : Nat) (lines : List (List Char)) :
    (PatternLine.yields source number lines).flatMap (·.value) =
      ((lines.map String.ofList).map PatternLine.ofText).filterMap PatternLine.pattern? := by
  rw [List.filterMap_eq_flatMap_toList, List.flatMap_map, List.flatMap_map]
  induction lines generalizing number with
  | nil => rfl
  | cons line lines ih =>
      rw [List.flatMap_cons, ← ih (number + 1)]
      rfl

theorem flatMap_events_yields (source : String) (number : Nat) (lines : List (List Char)) :
    (PatternLine.yields source number lines).flatMap (·.events) =
      (((lines.map String.ofList).map PatternLine.ofText).zipIdx number).filterMap
        fun (said, number) => said.warning? source number := by
  rw [List.filterMap_eq_flatMap_toList]
  induction lines generalizing number with
  | nil => rfl
  | cons line lines ih =>
      rw [List.map_cons, List.map_cons, List.zipIdx_cons, List.flatMap_cons, ← ih (number + 1)]
      rfl

theorem readPatterns_eq {content : String} {lines : List (List Char)}
    (h : HasLines content.toList lines) (source : String) :
    readPatterns content source =
      ⟨(PatternLine.yields source 1 lines).flatMap (·.value),
        (PatternLine.yields source 1 lines).flatMap (·.events)⟩ := by
  rw [readPatterns, hasLines_iff.1 h, flatMap_value_yields, flatMap_events_yields]

/-! ## Writing -/

/-- The pattern can be written on a line of a pattern file. -/
structure NamedFragment.IsWritable (pattern : NamedFragment) : Prop where
  name : isPatternName pattern.name = true
  nonempty : pattern.fragment ≠ ""
  trimmed : IsTrimmed pattern.fragment.toList
  oneLine : '\n' ∉ pattern.fragment.toList

def NamedFragment.line (pattern : NamedFragment) : String :=
  pattern.name ++ " " ++ pattern.fragment

def patternText (patterns : List NamedFragment) : String :=
  "\n".intercalate (patterns.map NamedFragment.line)

theorem LineYields.isWritable {source : String} {number : Nat} {line : List Char}
    {patterns : List NamedFragment} {events : List LogEvent}
    (h : LineYields source number line patterns events) (hline : '\n' ∉ line) :
    ∀ pattern ∈ patterns, pattern.IsWritable := by
  cases h with
  | blank | comment | lone | misnamed => exact fun _ hmem => absurd hmem List.not_mem_nil
  | definition hparts hname =>
      obtain ⟨⟨front, gap, back, rfl, -⟩, -, htrimmed, hne⟩ := hparts
      rw [List.forall_mem_singleton]
      refine ⟨hname, by simpa using hne, by simpa using htrimmed, fun hfeed => hline ?_⟩
      rw [String.toList_ofList] at hfeed
      simp [hfeed]

theorem isWritable_of_mem_readPatterns (content source : String) :
    ∀ pattern ∈ (readPatterns content source).value, pattern.IsWritable := by
  have hlines := hasLines_linesFrom content.toList
  rw [readPatterns_eq hlines]
  intro pattern hpattern
  obtain ⟨part, hpart, hmem⟩ := List.mem_flatMap.1 hpattern
  obtain ⟨line, hline, rfl⟩ := List.mem_map.1 hpart
  have hfeed := hlines.feed_notMem line.1 (List.fst_mem_of_mem_zipIdx hline)
  exact (lineYields_yield source line.2 line.1).isWritable hfeed pattern hmem

theorem isWhite_of_isNameChar {c : Char} (h : isNameChar c = true) : isWhite c = false := by
  have hcode : 0x20 < c.toNat ∧ c.toNat < 0x80 := by
    simp only [isNameChar, Char.isAlphanum, Char.isAlpha, Char.isUpper, Char.isLower, Char.isDigit,
      Bool.or_eq_true, Bool.and_eq_true, decide_eq_true_eq, ge_iff_le, UInt32.le_iff_toNat_le,
      Char.toNat_val, Char.reduceToNat] at h
    rcases h with ((h | h) | h) | rfl
    · omega
    · omega
    · omega
    · decide
  simp only [isWhite, CodeSet.containsChar, CodeSet.contains, whiteSpace, CodeSet.inRanges]
  grind

theorem isWord_of_isPatternName {name : String} (h : isPatternName name = true) :
    IsWord name.toList where
  ne_nil hnil := by simp [isPatternName, hnil] at h
  black c hc := by
    have hall := (Bool.and_eq_true_iff.1 h).2
    exact isWhite_of_isNameChar (List.all_eq_true.1 hall c hc)
  unmarked hmark :=
    notMem_of_isPatternName h (by decide) (List.mem_of_mem_head? hmark)

namespace NamedFragment.IsWritable

variable {pattern : NamedFragment}

theorem namesFragment (h : pattern.IsWritable) :
    NamesFragment pattern.line.toList pattern.name.toList pattern.fragment.toList where
  parts := ⟨[], [' '], [], by simp [NamedFragment.line], by simp [IsGap], by simp [IsGap]; decide,
    by simp, by simp [IsGap]⟩
  name := isWord_of_isPatternName h.name
  trimmed := h.trimmed
  ne_nil := by simpa using h.nonempty

theorem yield_line (h : pattern.IsWritable) (source : String) (number : Nat) :
    PatternLine.yield source number pattern.line.toList = ⟨[pattern], []⟩ := by
  have hname : isPatternName (String.ofList pattern.name.toList) = true := by
    rw [String.ofList_toList]
    exact h.name
  have hyields : LineYields source number pattern.line.toList
      [⟨String.ofList pattern.name.toList, String.ofList pattern.fragment.toList⟩] [] :=
    .definition h.namesFragment hname
  rw [String.ofList_toList, String.ofList_toList] at hyields
  have hpart : (⟨[pattern], []⟩ : Logged (List NamedFragment)) = _ := LineYields.eq_yield hyields
  exact hpart.symm

end NamedFragment.IsWritable

theorem hasLines_patternText {patterns : List NamedFragment}
    (h : ∀ pattern ∈ patterns, pattern.IsWritable) :
    HasLines (patternText patterns).toList (patterns.map (·.line.toList)) := by
  have htext : (patternText patterns).toList =
      ['\n'].intercalate (patterns.map (·.line.toList)) := by
    rw [patternText, String.toList_intercalate, List.map_map]
    rfl
  rw [htext]
  refine hasLines_intercalate ?_ ?_ ?_ <;> rw [List.forall_mem_map] <;> intro pattern hpattern
  · simp [NamedFragment.line]
  · have hname : '\n' ∉ pattern.name.toList :=
      notMem_of_isPatternName (h pattern hpattern).name (by decide)
    simp [NamedFragment.line, hname, (h pattern hpattern).oneLine]
  · intro hreturn
    have hne : pattern.fragment.toList ≠ [] := by simpa using (h pattern hpattern).nonempty
    rw [NamedFragment.line, String.toList_append, List.getLast?_append_of_ne_nil _ hne] at hreturn
    have hblack : isWhite '\r' = false := (h pattern hpattern).trimmed.last '\r' hreturn
    exact absurd hblack (by decide)

/-- The patterns of a written text are read from it, and nothing else. -/
theorem readPatterns_patternText {patterns : List NamedFragment}
    (h : ∀ pattern ∈ patterns, pattern.IsWritable) (source : String) :
    readPatterns (patternText patterns) source = ⟨patterns, []⟩ := by
  have hyields (number : Nat) :
      PatternLine.yields source number (patterns.map (·.line.toList)) =
        patterns.map fun pattern => ⟨[pattern], []⟩ := by
    induction patterns generalizing number with
    | nil => rfl
    | cons pattern patterns ih =>
        rw [List.forall_mem_cons] at h
        rw [List.map_cons, List.map_cons, ← h.1.yield_line source number, ← ih h.2 (number + 1)]
        rfl
  rw [readPatterns_eq (hasLines_patternText h), hyields, List.flatMap_map, List.flatMap_map]
  simp

/-- Every line is accounted for, and the patterns that can be read are those that can be written. -/
theorem readPatterns_accounts (content source : String) :
    (∀ number line, ∃! part : Logged (List NamedFragment),
      LineYields source number line part.value part.events) ∧
    (∃ lines, HasLines content.toList lines ∧ ∃ parts : List (Logged (List NamedFragment)),
      List.Forall₂ (fun line part => LineYields source line.2 line.1 part.value part.events)
        (lines.zipIdx 1) parts ∧
      (readPatterns content source).value = parts.flatMap (·.value) ∧
      (readPatterns content source).events = parts.flatMap (·.events)) ∧
    (∀ pattern ∈ (readPatterns content source).value, pattern.IsWritable) ∧
    (∀ registry : Registry,
      (registry.registerAll (readPatterns content source).value).refusal = none) ∧
    ∀ patterns, readPatterns (patternText patterns) source = ⟨patterns, []⟩ ↔
      ∀ pattern ∈ patterns, pattern.IsWritable := by
  have hlines := hasLines_linesFrom content.toList
  have hparts := readPatterns_eq hlines source
  have hwritable := isWritable_of_mem_readPatterns content source
  refine ⟨fun number line => ?_, ⟨_, hlines, _, forall₂_yields source 1 _, ?_, ?_⟩, hwritable,
    fun registry => ?_, fun patterns => ⟨fun hread => ?_, fun h => ?_⟩⟩
  · exact ⟨_, lineYields_yield source number line, fun part hpart => hpart.eq_yield⟩
  · rw [hparts]
  · rw [hparts]
  · exact (registry.refusal_registerAll_eq_none_iff).2 fun pattern hpattern =>
      (hwritable pattern hpattern).name
  · have hall := isWritable_of_mem_readPatterns (patternText patterns) source
    rwa [hread] at hall
  · exact readPatterns_patternText h source

/-- White space of any kind parts a name from its fragment; what stands alone defines nothing. -/
example : (readPatterns "# names\r\nID\u3000 x  y \nLONE\na-b z" "f").value = [⟨"ID", "x  y"⟩] := by
  decide +kernel

end LogPattern
