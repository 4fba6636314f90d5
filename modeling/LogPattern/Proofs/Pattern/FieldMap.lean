import LogPattern.Proofs.Pattern.FieldGroups
import LogPattern.Proofs.Regex.Finding
import LogPattern.Proofs.Regex.Spans
import Mathlib.Data.List.Induction

/-!
# The field map of a line

Values are taken one after the other, each under a name that may come again.  Which of them
decides about the value and which about the place differ: the last one that was taken under
a name stays, at the place of the first one.  On a line the groups of a pattern take the
values, those that took part in the match.
-/

namespace LogPattern

namespace FieldMap

variable {map map' : FieldMap} {name value : String} {entries : List (String × String)}

def names (map : FieldMap) : List String := map.entries.map (·.1)

/-! ## Inserting -/

theorem insertEntry_of_notMem (h : name ∉ entries.map (·.1)) :
    insertEntry name value entries = entries ++ [(name, value)] := by
  induction entries with
  | nil => rfl
  | cons entry rest ih =>
      simp only [List.map_cons, List.mem_cons, not_or] at h
      rw [insertEntry, if_neg (Ne.symm h.1), ih h.2, List.cons_append]

theorem map_fst_insertEntry_of_mem (h : name ∈ entries.map (·.1)) :
    (insertEntry name value entries).map (·.1) = entries.map (·.1) := by
  induction entries with
  | nil => cases h
  | cons entry rest ih =>
      rw [insertEntry]
      split
      · next hname => rw [List.map_cons, List.map_cons, hname]
      · next hname =>
          have hrest := (List.mem_cons.1 h).resolve_left (Ne.symm hname)
          rw [List.map_cons, List.map_cons, ih hrest]

theorem names_insert (map : FieldMap) (name value : String) :
    (map.insert name value).names =
      if name ∈ map.names then map.names else map.names ++ [name] := by
  rw [names, insert]
  split
  · next h => exact map_fst_insertEntry_of_mem h
  · next h => rw [insertEntry_of_notMem h, List.map_append, names, List.map_singleton]

theorem mem_names_insert {other : String} :
    other ∈ (map.insert name value).names ↔ other ∈ map.names ∨ other = name := by
  rw [names_insert]
  split
  · next hold => exact ⟨.inl, fun hname => hname.elim id fun heq => heq ▸ hold⟩
  · rw [List.mem_append, List.mem_singleton]

theorem mem_insertEntry_iff {other given : String} (hnodup : (entries.map (·.1)).Nodup) :
    (other, given) ∈ insertEntry name value entries ↔
      if other = name then given = value else (other, given) ∈ entries := by
  induction entries with
  | nil =>
      simp only [insertEntry, List.mem_singleton, Prod.mk.injEq, List.not_mem_nil]
      split <;> simp_all
  | cons entry rest ih =>
      obtain ⟨hentry, hrest⟩ := List.nodup_cons.1 hnodup
      have hfresh (given : String) : (entry.1, given) ∉ rest :=
        fun hmem => hentry (List.mem_map.2 ⟨_, hmem, rfl⟩)
      rw [insertEntry]
      split
      · next hname =>
          subst hname
          simp only [List.mem_cons, Prod.mk.injEq]
          split
          · next hsame =>
              subst hsame
              simp [hfresh]
          · next hother =>
              have hne : (other, given) ≠ entry := fun heq => hother (congrArg Prod.fst heq)
              simp [hother, hne]
      · next hname =>
          rw [List.mem_cons, ih hrest]
          split
          · next hsame =>
              have hne : (other, given) ≠ entry :=
                fun heq => hname ((congrArg Prod.fst heq).symm.trans hsame)
              simp [hne]
          · simp

/-! ## Taking values -/

section Taken

variable {taken : Nat → String → String → Prop}

def Precedes (taken : Nat → String → String → Prop) (first second : String) : Prop :=
  ∃ turn value, taken turn first value ∧
    ∀ turn' value', taken turn' second value' → turn < turn'

/--
The map of what names have taken at their turns.  The names stand in the order of their
first turns, each with the value of its last turn.
-/
structure IsCollected (taken : Nat → String → String → Prop) (map : FieldMap) : Prop where
  nodup : map.names.Nodup
  mem_names_iff : ∀ name, name ∈ map.names ↔ ∃ turn value, taken turn name value
  mem_entries_iff : ∀ name value, (name, value) ∈ map.entries ↔
    ∃ turn, taken turn name value ∧ ∀ turn' value', turn < turn' → ¬ taken turn' name value'
  ordered : map.names.Pairwise (Precedes taken)

theorem Precedes.asymm {first second : String} (h : Precedes taken first second) :
    ¬ Precedes taken second first := by
  obtain ⟨turn, value, htaken, hfirst⟩ := h
  rintro ⟨turn', value', htaken', hsecond⟩
  have hlt := hfirst turn' value' htaken'
  have hgt := hsecond turn value htaken
  omega

theorem Precedes.mono {taken' : Nat → String → String → Prop} {first second : String}
    (h : Precedes taken first second)
    (hfirst : ∀ turn value, taken turn first value → taken' turn first value)
    (hlater : ∀ turn value, taken turn first value →
      ∀ turn' value', taken' turn' second value' → taken turn' second value' ∨ turn < turn') :
    Precedes taken' first second := by
  obtain ⟨turn, value, htaken, hbefore⟩ := h
  refine ⟨turn, value, hfirst turn value htaken, fun turn' value' htaken' => ?_⟩
  rcases hlater turn value htaken turn' value' htaken' with hold | hlt
  · exact hbefore turn' value' hold
  · exact hlt

namespace IsCollected

theorem empty : IsCollected (fun _ _ _ => False) FieldMap.empty where
  nodup := List.nodup_nil
  mem_names_iff := by simp [names, FieldMap.empty]
  mem_entries_iff := by simp [FieldMap.empty]
  ordered := List.Pairwise.nil

theorem unique (h : map.IsCollected taken) (h' : map'.IsCollected taken) : map = map' := by
  have hperm : map.entries.Perm map'.entries := by
    refine (List.perm_ext_iff_of_nodup h.nodup.of_map h'.nodup.of_map).2 fun (name, value) => ?_
    exact (h.mem_entries_iff name value).trans (h'.mem_entries_iff name value).symm
  have hordered := List.pairwise_map.1 h.ordered
  have hordered' := List.pairwise_map.1 h'.ordered
  have hentries : map.entries = map'.entries :=
    hperm.eq_of_pairwise (fun _ _ _ _ hlt hgt => absurd hgt hlt.asymm) hordered hordered'
  cases map
  cases map'
  exact congrArg FieldMap.mk hentries

theorem insert {turn : Nat} (h : map.IsCollected taken)
    (hbefore : ∀ turn' name value, taken turn' name value → turn' < turn) (name value : String) :
    (map.insert name value).IsCollected fun turn' name' value' =>
      taken turn' name' value' ∨ turn' = turn ∧ name' = name ∧ value' = value where
  nodup := by
    rw [names_insert]
    split
    · exact h.nodup
    · next hnew => exact List.concat_eq_append ▸ h.nodup.concat hnew
  mem_names_iff name' := by
    rw [mem_names_insert, h.mem_names_iff]
    constructor
    · rintro (⟨turn', value', htaken⟩ | rfl)
      · exact ⟨turn', value', .inl htaken⟩
      · exact ⟨turn, value, .inr ⟨rfl, rfl, rfl⟩⟩
    · rintro ⟨turn', value', htaken | ⟨-, rfl, -⟩⟩
      · exact .inl ⟨turn', value', htaken⟩
      · exact .inr rfl
  mem_entries_iff name' value' := by
    rw [FieldMap.insert, mem_insertEntry_iff h.nodup]
    split
    · next hsame =>
        subst hsame
        constructor
        · rintro rfl
          refine ⟨turn, .inr ⟨rfl, rfl, rfl⟩, fun turn' value' hlater htaken => ?_⟩
          rcases htaken with hold | ⟨rfl, -⟩
          · have hlt := hbefore turn' _ _ hold
            omega
          · exact Nat.lt_irrefl _ hlater
        · rintro ⟨turn', hold | ⟨-, -, rfl⟩, hlast⟩
          · exact absurd (.inr ⟨rfl, rfl, rfl⟩) (hlast turn value (hbefore turn' _ _ hold))
          · rfl
    · next hother => simp [h.mem_entries_iff, hother]
  ordered := by
    have hkept : map.names.Pairwise (Precedes fun turn' name' value' =>
        taken turn' name' value' ∨ turn' = turn ∧ name' = name ∧ value' = value) := by
      refine h.ordered.imp fun hprecedes => hprecedes.mono (fun _ _ => .inl) ?_
      rintro turn' value' htaken turn'' value'' (hold | ⟨rfl, -⟩)
      · exact .inl hold
      · exact .inr (hbefore turn' _ _ htaken)
    rw [names_insert]
    split
    · exact hkept
    · next hnew =>
        refine List.pairwise_append.2 ⟨hkept, List.pairwise_singleton _ _, fun old hold => ?_⟩
        intro new hnamed
        obtain rfl := List.mem_singleton.1 hnamed
        obtain ⟨turn', value', htaken⟩ := (h.mem_names_iff old).1 hold
        refine ⟨turn', value', .inl htaken, ?_⟩
        rintro turn'' value'' (hnamed | ⟨rfl, -⟩)
        · exact absurd ((h.mem_names_iff new).2 ⟨turn'', value'', hnamed⟩) hnew
        · exact hbefore turn' _ _ htaken

end IsCollected

/-- What names take one after the other, some of them nothing. -/
def collect (takes : List (String × Option String)) : FieldMap :=
  takes.foldl (fun map take =>
    match take.2 with
    | none => map
    | some value => map.insert take.1 value) .empty

theorem collect_append_none (takes : List (String × Option String)) (name : String) :
    collect (takes ++ [(name, none)]) = collect takes := by
  rw [collect, List.foldl_append]
  rfl

theorem collect_append_some (takes : List (String × Option String)) (name value : String) :
    collect (takes ++ [(name, some value)]) = (collect takes).insert name value := by
  rw [collect, List.foldl_append]
  rfl

theorem isCollected_collect (takes : List (String × Option String)) :
    (collect takes).IsCollected fun turn name value => takes[turn]? = some (name, some value) := by
  induction takes using List.reverseRecOn with
  | nil =>
      have hempty : collect [] = FieldMap.empty := rfl
      simpa [hempty] using IsCollected.empty
  | append_singleton takes take ih =>
      obtain ⟨name, value?⟩ := take
      have htaken (turn : Nat) (name' value' : String) :
          (takes ++ [(name, value?)])[turn]? = some (name', some value') ↔
            takes[turn]? = some (name', some value') ∨
              turn = takes.length ∧ name' = name ∧ some value' = value? := by
        rcases Nat.lt_trichotomy turn takes.length with hlt | rfl | hgt
        · rw [List.getElem?_append_left hlt]
          simp [Nat.ne_of_lt hlt]
        · simp [eq_comm]
        · have hnone : takes[turn]? = none := List.getElem?_eq_none (by omega)
          have hnone' : (takes ++ [(name, value?)])[turn]? = none :=
            List.getElem?_eq_none (by simp; omega)
          simp [hnone, hnone', Nat.ne_of_gt hgt]
      simp only [htaken]
      cases value? with
      | none => simpa [collect_append_none] using ih
      | some value =>
          have hbefore (turn : Nat) (name' value' : String)
              (h : takes[turn]? = some (name', some value')) : turn < takes.length :=
            (List.getElem?_eq_some_iff.1 h).1
          rw [collect_append_some]
          simpa only [Option.some.injEq] using ih.insert hbefore name value

end Taken

end FieldMap

/-! ## Parts of a line -/

namespace Regex

def Span.Cuts (span : Span) (line value : String) : Prop :=
  ∃ front back, line.toList = front ++ value.toList ++ back ∧ front.length = span.start ∧
    front.length + value.toList.length = span.stop

theorem Span.cuts_slice {span : Span} {line : String} (horder : span.start ≤ span.stop)
    (hstop : span.stop ≤ line.toList.length) :
    span.Cuts line (String.ofList (span.slice line.toList)) := by
  refine ⟨line.toList.take span.start, line.toList.drop span.stop, ?_, ?_, ?_⟩
  · have hback : (line.toList.drop span.start).drop (span.stop - span.start) =
        line.toList.drop span.stop := by
      rw [List.drop_drop, Nat.add_sub_cancel' horder]
    rw [String.toList_ofList, slice, List.append_assoc, ← hback, List.take_append_drop,
      List.take_append_drop]
  · rw [List.length_take]
    omega
  · rw [String.toList_ofList, slice, List.length_take, List.length_take, List.length_drop]
    omega

theorem Span.Cuts.eq_slice {span : Span} {line value : String} (h : span.Cuts line value) :
    value = String.ofList (span.slice line.toList) := by
  obtain ⟨front, back, hline, hfront, hvalue⟩ := h
  have hlength : span.stop - span.start = value.toList.length := by omega
  rw [slice, hline, ← hfront, List.append_assoc, List.drop_left, hfront, hlength, List.take_left,
    String.ofList_toList]

/-- Somewhere in a text there is a match. -/
def Finds (regex : Regex) (text : List Char) : Prop :=
  ∃ front back, text = front ++ back ∧ Leads regex.program 0 front.getLast? back

theorem captures?_isSome_iff (regex : Regex) (text : List Char) :
    (regex.captures? text).isSome = true ↔ regex.Finds text := by
  rw [captures?, Option.isSome_map]
  exact search_isSome_iff regex.program text

end Regex

namespace CompiledPattern

variable {lookup : Lookup} {maxDepth : Nat} {text line : String} {pattern : CompiledPattern}
  {spans : List (Option Regex.Span)}

/-- A field whose group took part in the match takes the part of the line that the group took. -/
def Takes (pattern : CompiledPattern) (spans : List (Option Regex.Span)) (line : String)
    (k : Nat) (name value : String) : Prop :=
  ∃ field span, pattern.fields[k]? = some field ∧ field.name = name ∧
    spans[k + 1]? = some (some span) ∧ span.Cuts line value

theorem fieldMap_eq_collect (fields : List Field) (groups : List (Option Regex.Span))
    (line : List Char) : fieldMap fields groups line =
      FieldMap.collect ((fields.zip groups).map fun (field, span?) =>
        (field.name, span?.map fun span => String.ofList (span.slice line))) := by
  rw [fieldMap, FieldMap.collect, List.foldl_map]
  congr 1
  funext map (field, span?)
  cases span? <;> rfl

theorem cuts_of_captures? (h : compile lookup maxDepth text = .ok pattern)
    (hspans : pattern.regex.captures? line.toList = some spans) {group : Nat}
    {span : Regex.Span} (hspan : spans[group]? = some (some span)) :
    span.Cuts line (String.ofList (span.slice line.toList)) := by
  obtain ⟨-, -, -, -, hregex, -⟩ := compile_inv h
  obtain ⟨horder, hstop⟩ := Regex.span_le_of_captures? hregex hspans hspan
  exact Regex.Span.cuts_slice horder hstop

theorem takes_iff (h : compile lookup maxDepth text = .ok pattern)
    (hspans : pattern.regex.captures? line.toList = some spans) (k : Nat) (name value : String) :
    ((pattern.fields.zip spans.tail).map fun (field, span?) =>
        (field.name, span?.map fun span => String.ofList (span.slice line.toList)))[k]? =
      some (name, some value) ↔ pattern.Takes spans line k name value := by
  rw [List.getElem?_map, Option.map_eq_some_iff]
  constructor
  · rintro ⟨⟨field, span?⟩, hzip, hentry⟩
    obtain ⟨hfield, hspan⟩ := List.getElem?_zip_eq_some.1 hzip
    obtain ⟨rfl, hvalue⟩ := Prod.mk.inj hentry
    obtain ⟨span, rfl, rfl⟩ := Option.map_eq_some_iff.1 hvalue
    rw [List.getElem?_tail] at hspan
    exact ⟨field, span, hfield, rfl, hspan, cuts_of_captures? h hspans hspan⟩
  · rintro ⟨field, span, hfield, rfl, hspan, hcuts⟩
    rw [hcuts.eq_slice]
    refine ⟨(field, some span), List.getElem?_zip_eq_some.2 ⟨hfield, ?_⟩, rfl⟩
    rw [List.getElem?_tail, hspan]

/--
A line has fields exactly if the pattern finds a match in it.  They are the values that
the groups of the match took, field by field: the fields whose groups took part, each name
once, in the order in which the names first took part, with the last value of each.
-/
theorem matchLine_collects (h : compile lookup maxDepth text = .ok pattern) (line : String) :
    (pattern.matchLine line = none ↔ ¬ pattern.regex.Finds line.toList) ∧
      ∀ map, pattern.matchLine line = some map ↔
        ∃ spans, pattern.regex.captures? line.toList = some spans ∧
          spans.length = pattern.fields.length + 1 ∧
          (∀ (group : Nat) (span : Regex.Span), spans[group]? = some (some span) →
            ∃ value, span.Cuts line value) ∧
          map.IsCollected (pattern.Takes spans line) := by
  obtain ⟨-, -, -, -, -, hcount⟩ := compile_inv h
  have hcollected {spans : List (Option Regex.Span)}
      (hspans : pattern.regex.captures? line.toList = some spans) :
      (fieldMap pattern.fields spans.tail line.toList).IsCollected
        (pattern.Takes spans line) := by
    rw [fieldMap_eq_collect]
    have hmap := FieldMap.isCollected_collect ((pattern.fields.zip spans.tail).map
      fun (field, span?) =>
        (field.name, span?.map fun span => String.ofList (span.slice line.toList)))
    simpa only [takes_iff h hspans] using hmap
  refine ⟨?_, fun map => ?_⟩
  · rw [matchLine, Option.map_eq_none_iff, ← Regex.captures?_isSome_iff,
      Option.not_isSome_iff_eq_none]
  · rw [matchLine, Option.map_eq_some_iff]
    constructor
    · rintro ⟨spans, hspans, rfl⟩
      refine ⟨spans, hspans, ?_, fun group span hspan =>
        ⟨_, cuts_of_captures? h hspans hspan⟩, hcollected hspans⟩
      obtain ⟨marks, -, rfl⟩ := Option.map_eq_some_iff.1 hspans
      rw [Regex.length_spansOf, hcount]
    · rintro ⟨spans, hspans, -, -, hmap⟩
      exact ⟨spans, hspans, (hcollected hspans).unique hmap⟩

/-- A group that does not take part leaves its name to the next one, place and value. -/
theorem matchLine_collects_optional :
    let lookup := (Registry.empty.registerAll
      [⟨"D", "[0-9]"⟩, ⟨"W", "[a-z]"⟩, ⟨"P", "(%{D:x})?%{W:y}%{W:x}"⟩]).registry.lookup?
    ∃ pattern, compile lookup defaultMaxDepth "%{P}" = .ok pattern ∧
      (∃ map spans, pattern.matchLine "1ab" = some map ∧
        map.IsCollected (pattern.Takes spans "1ab") ∧ map.entries = [("x", "b"), ("y", "a")]) ∧
      (∃ map spans, pattern.matchLine "ab" = some map ∧
        map.IsCollected (pattern.Takes spans "ab") ∧ map.entries = [("y", "a"), ("x", "b")]) ∧
      ¬ pattern.regex.Finds "1b".toList := by
  intro lookup
  have hcompiles : (compile lookup defaultMaxDepth "%{P}").toOption.any (fun pattern =>
      pattern.matchLine "1ab" = some ⟨[("x", "b"), ("y", "a")]⟩ ∧
        pattern.matchLine "ab" = some ⟨[("y", "a"), ("x", "b")]⟩ ∧
        pattern.matchLine "1b" = none) = true := by decide +kernel
  obtain ⟨pattern, hpattern, hlines⟩ := except_exists_ok hcompiles
  obtain ⟨hdigit, hwords, hnone⟩ := of_decide_eq_true hlines
  obtain ⟨spans, -, -, -, hmap⟩ := ((matchLine_collects hpattern "1ab").2 _).1 hdigit
  obtain ⟨spans', -, -, -, hmap'⟩ := ((matchLine_collects hpattern "ab").2 _).1 hwords
  exact ⟨pattern, hpattern, ⟨_, spans, hdigit, hmap, rfl⟩, ⟨_, spans', hwords, hmap', rfl⟩,
    (matchLine_collects hpattern "1b").1.1 hnone⟩

end CompiledPattern

end LogPattern
