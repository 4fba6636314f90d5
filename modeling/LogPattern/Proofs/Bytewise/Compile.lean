import LogPattern.Proofs.Bytewise.Group
import LogPattern.Proofs.Bytewise.Literal
import LogPattern.Proofs.Bytewise.Token
import LogPattern.Proofs.Pattern.FieldGroups
import LogPattern.Proofs.Pattern.References
import LogPattern.Proofs.Regex.Spans

/-!
# Compiling and matching by offsets

A pattern is compiled, and a line is matched, with every part of a text cut out by offsets.  A
cut that cannot be made is told apart from the refusal of a pattern.  No cut fails: a compilation
by offsets comes to the same end as one by characters, and on a line the values are cut out
between the offsets of the groups.
-/

namespace LogPattern.Bytewise

open String

/-! ## Completed computations -/

section Completed

variable {ε α β : Type}

/-- A computation that has cut nothing wrongly: it has a result, or has refused to give one. -/
def completed (result : Except ε α) : ExceptT ε Option α := ExceptT.mk (some result)

theorem lift_eq_completed (result : Except ε α) :
    (liftM result : ExceptT ε Option α) = completed result := by
  cases result <;> rfl

theorem lift_some_bind (a : α) (next? : α → ExceptT ε Option β) :
    (liftM (some a) : ExceptT ε Option α) >>= next? = next? a := rfl

theorem completed_map (result : Except ε α) (f : α → β) :
    (completed result >>= fun a => pure (f a)) = completed (result.map f) := by
  cases result <;> rfl

theorem completed_bind (result : Except ε α) (next? : α → ExceptT ε Option β)
    (next : α → Except ε β) (h : ∀ a, next? a = completed (next a)) :
    completed result >>= next? = completed (result.bind next) := by
  cases result with
  | error e => rfl
  | ok a => exact h a

theorem foldlM_completed {step? : β → α → ExceptT ε Option β} {step : β → α → Except ε β}
    (h : ∀ state item, step? state item = completed (step state item)) (state : β)
    (items : List α) : items.foldlM step? state = completed (items.foldlM step state) := by
  induction items generalizing state with
  | nil => rfl
  | cons item items ih =>
      rw [List.foldlM_cons, List.foldlM_cons, h]
      exact completed_bind _ _ _ ih

end Completed

/-! ## Compiling -/

def expandSegment? (expand? : Token → Expansion → ExceptT CompileError Option Expansion)
    (chain : List String) (expansion : Expansion) :
    Segment → ExceptT CompileError Option Expansion
  | .literal text => do
      let result ← neutralize? text
      (expansion.append (result.text text).toList).checkLength chain
  | .token inner => do
      let expansion ← expand? inner expansion
      expansion.checkLength chain

def expandToken? (lookup : Lookup) (maxDepth : Nat) (position : Nat) :
    (depthLeft : Nat) → (chain : List String) → Token → Expansion →
    ExceptT CompileError Option Expansion
  | depthLeft, chain, token, expansion =>
      match if isPatternName token.name then lookup token.name else none with
      | none => throw (.unknownReference token.name position)
      | some fragment =>
          if chain.contains token.name then
            throw (.cyclicReference (token.name :: chain).reverse)
          else
            match depthLeft with
            | 0 => throw (.tooDeep maxDepth token.name)
            | depthLeft + 1 => do
                let chain := token.name :: chain
                let row ← segments? fragment
                let expanded ←
                  row.foldlM (expandSegment? (expandToken? lookup maxDepth position depthLeft chain)
                    chain) (expansion.openToken token)
                return expanded.append [')']

def expandSegments? (lookup : Lookup) (maxDepth : Nat) (first : Bool) :
    List Segment → Expansion → ExceptT CompileError Option Expansion
  | [], expansion => return expansion
  | .literal text :: rest, expansion => do
      let literal ← anchoredLiteral? text first rest.isEmpty
      let expansion ← (expansion.append literal.regexText).checkLength []
      expandSegments? lookup maxDepth false rest expansion
  | .token token :: rest, expansion => do
      let expansion ← expandToken? lookup maxDepth token.offset maxDepth [] token expansion
      expandSegments? lookup maxDepth false rest expansion

def compile? (lookup : Lookup) (maxDepth : Nat) (text : String) :
    ExceptT CompileError Option CompiledPattern := do
  if text.isEmpty then throw .emptyPattern
  let row ← segments? text
  let expansion ← expandSegments? lookup maxDepth true row .start
  CompiledPattern.ofExpansion text expansion

section Equations

variable {lookup : Lookup} {maxDepth : Nat}

theorem expandSegment?_eq {expand? : Token → Expansion → ExceptT CompileError Option Expansion}
    {position depth : Nat} {chain : List String}
    (h : ∀ token expansion, expand? token expansion =
      completed (Expansion.expandToken lookup maxDepth position depth chain token expansion))
    (expansion : Expansion) (segment : Segment) :
    expandSegment? expand? chain expansion segment =
      completed
        (Expansion.expandSegment lookup maxDepth position depth chain expansion segment) := by
  cases segment with
  | literal text =>
      obtain ⟨result, hresult, htext, -⟩ := exists_neutralize? text
      rw [expandSegment?, hresult, Expansion.expandSegment, ← htext]
      exact lift_eq_completed _
  | token inner =>
      rw [expandSegment?, h]
      exact completed_bind _ _ _ fun _ => lift_eq_completed _

theorem expandToken?_eq (position depth : Nat) (chain : List String) (token : Token)
    (expansion : Expansion) :
    expandToken? lookup maxDepth position depth chain token expansion =
      completed (Expansion.expandToken lookup maxDepth position depth chain token expansion) := by
  induction depth using Nat.strongRecOn generalizing chain token expansion with
  | ind depth ih =>
      rw [expandToken?, Expansion.expandToken]
      generalize (if isPatternName token.name = true then lookup token.name else none) = found
      cases found with
      | none => rfl
      | some fragment =>
          dsimp only
          split
          · rfl
          cases depth with
          | zero => rfl
          | succ depth =>
              have hrow := foldlM_completed (expandSegment?_eq
                (ih depth (Nat.lt_succ_self depth) (token.name :: chain)))
                (expansion.openToken token) (segments fragment)
              dsimp only
              rw [segments?_eq]
              rw [lift_some_bind, hrow, completed_map]
              rfl

theorem expandSegments?_eq (first : Bool) (row : List Segment) (expansion : Expansion) :
    expandSegments? lookup maxDepth first row expansion =
      completed (Expansion.expandSegments lookup maxDepth first row expansion) := by
  induction row generalizing first expansion with
  | nil => rfl
  | cons segment rest ih =>
      cases segment with
      | literal text =>
          rw [expandSegments?, anchoredLiteral?_eq, lift_some_bind, lift_eq_completed,
            completed_bind _ _ _ fun expansion => ih false expansion, Expansion.expandSegments]
          generalize AnchoredLiteral.ofText text.toList first rest.isEmpty = literal
          cases (expansion.append literal.regexText).checkLength [] with
          | error e => rfl
          | ok expansion => rfl
      | token token =>
          rw [expandSegments?, expandToken?_eq,
            completed_bind _ _ _ fun expansion => ih false expansion, Expansion.expandSegments]
          cases Expansion.expandToken lookup maxDepth token.offset maxDepth [] token expansion with
          | error e => rfl
          | ok expansion => rfl

theorem compile?_eq (lookup : Lookup) (maxDepth : Nat) (text : String) :
    compile? lookup maxDepth text = completed (CompiledPattern.compile lookup maxDepth text) := by
  rw [compile?, CompiledPattern.compile_eq_bind, Expansion.ofText]
  split
  · rfl
  · dsimp only
    rw [segments?_eq, lift_some_bind, expandSegments?_eq]
    exact completed_bind _ _ _ fun _ => lift_eq_completed _

end Equations

/-! ## Matching -/

def IsBoundary (text : String) (offset : Nat) : Prop := Pos.Raw.IsValid text ⟨offset⟩

/-- The offsets that a search reports for the groups, the whole match first. -/
abbrev Locations := List (Option (Nat × Nat))

def Locations.InLine (locations : Locations) (line : String) : Prop :=
  ∀ start stop, some (start, stop) ∈ locations →
    start ≤ stop ∧ IsBoundary line start ∧ IsBoundary line stop

def fieldMapFrom? (line : String) (locations : Locations) (index : Nat) (map : FieldMap) :
    List Field → Option FieldMap
  | [] => some map
  | field :: fields =>
      match locations[index + 1]?.join with
      | none => fieldMapFrom? line locations (index + 1) map fields
      | some (start, stop) =>
          (slice? line start stop).bind fun value =>
            fieldMapFrom? line locations (index + 1) (map.insert field.name value) fields

def matchLine? (search : String → Option Locations) (pattern : CompiledPattern) (line : String) :
    Option (Option FieldMap) :=
  match search line with
  | none => some none
  | some locations => (fieldMapFrom? line locations 0 .empty pattern.fields).map some

def offsetsOf (line : List Char) (span : Regex.Span) : Nat × Nat :=
  (byteCount (line.take span.start), byteCount (line.take span.stop))

def searchOf (pattern : CompiledPattern) (line : String) : Option Locations :=
  (pattern.regex.captures? line.toList).map fun spans =>
    spans.map (·.map (offsetsOf line.toList))

theorem isSome_slice? {text : String} {start stop : Nat} (hle : start ≤ stop)
    (hstart : IsBoundary text start) (hstop : IsBoundary text stop) :
    (slice? text start stop).isSome := by
  rw [slice?, dif_pos ⟨hstart, hstop, hle⟩]
  rfl

theorem isSome_fieldMapFrom? {line : String} {locations : Locations}
    (h : locations.InLine line) (index : Nat) (map : FieldMap) (fields : List Field) :
    (fieldMapFrom? line locations index map fields).isSome := by
  induction fields generalizing index map with
  | nil => rfl
  | cons field fields ih =>
      rw [fieldMapFrom?]
      split
      · exact ih _ _
      · next start stop hlocation =>
          have hmem : some (start, stop) ∈ locations :=
            List.mem_of_getElem? (Option.join_eq_some_iff.1 hlocation)
          obtain ⟨hle, hstart, hstop⟩ := h start stop hmem
          obtain ⟨value, hvalue⟩ := Option.isSome_iff_exists.1 (isSome_slice? hle hstart hstop)
          rw [hvalue]
          exact ih _ _

/-- Where a search reports offsets between which there are parts of the line, a match succeeds. -/
theorem isSome_matchLine? {search : String → Option Locations} {line : String}
    (h : ∀ locations, search line = some locations → locations.InLine line)
    (pattern : CompiledPattern) : (matchLine? search pattern line).isSome := by
  unfold matchLine?
  split
  · rfl
  · next locations hlocations =>
      rw [Option.isSome_map]
      exact isSome_fieldMapFrom? (h locations hlocations) _ _ _

theorem take_stop {line : List Char} {span : Regex.Span} (hle : span.start ≤ span.stop) :
    line.take span.stop = line.take span.start ++ span.slice line := by
  rw [Regex.Span.slice, ← List.take_add, Nat.add_sub_cancel' hle]

theorem slice?_offsetsOf {line : String} {span : Regex.Span} (hle : span.start ≤ span.stop) :
    slice? line (offsetsOf line.toList span).1 (offsetsOf line.toList span).2 =
      some (ofList (span.slice line.toList)) := by
  have htext : line.toList =
      line.toList.take span.start ++ span.slice line.toList ++ line.toList.drop span.stop := by
    rw [← take_stop hle, List.take_append_drop]
  rw [offsetsOf, take_stop hle, byteCount_append]
  exact slice?_of_toList htext

theorem fieldMapFrom?_eq {line : String} {spans : List (Option Regex.Span)}
    (h : ∀ span, some span ∈ spans → span.start ≤ span.stop) (index : Nat) (map : FieldMap)
    (fields : List Field) :
    fieldMapFrom? line (spans.map (·.map (offsetsOf line.toList))) index map fields =
      some ((fields.zip (spans.drop (index + 1))).foldl (fun map (field, span) =>
        match span with
        | none => map
        | some span => map.insert field.name (ofList (span.slice line.toList))) map) := by
  induction fields generalizing index map with
  | nil => rfl
  | cons field fields ih =>
      rw [fieldMapFrom?, List.getElem?_map]
      cases hspan : spans[index + 1]? with
      | none =>
          have hlength := List.getElem?_eq_none_iff.1 hspan
          rw [List.drop_eq_nil_of_le hlength]
          simp only [Option.map_none, Option.join_none, ih, List.zip_nil_right]
          rw [List.drop_eq_nil_of_le (Nat.le_succ_of_le hlength), List.zip_nil_right]
      | some span? =>
          obtain ⟨hlt, rfl⟩ := List.getElem?_eq_some_iff.1 hspan
          rw [List.drop_eq_getElem_cons hlt, List.zip_cons_cons, List.foldl_cons]
          cases hvalue : spans[index + 1] with
          | none => exact ih _ _
          | some span =>
              have hmem : some span ∈ spans := hvalue ▸ List.getElem_mem hlt
              simp only [Option.map_some, Option.join_some]
              rw [slice?_offsetsOf (h span hmem), Option.bind_some]
              exact ih _ _

section Compiled

variable {lookup : Lookup} {maxDepth : Nat} {text : String} {pattern : CompiledPattern}

theorem span_le_of_compile (h : CompiledPattern.compile lookup maxDepth text = .ok pattern)
    {line : List Char} {spans : List (Option Regex.Span)}
    (hspans : pattern.regex.captures? line = some spans) {span : Regex.Span}
    (hspan : some span ∈ spans) : span.start ≤ span.stop ∧ span.stop ≤ line.length := by
  obtain ⟨-, -, -, -, hregex, -⟩ := CompiledPattern.compile_inv h
  obtain ⟨group, hgroup⟩ := List.mem_iff_getElem?.1 hspan
  exact Regex.span_le_of_captures? hregex hspans hgroup

theorem isBoundary_take (line : String) (count : Nat) :
    IsBoundary line (byteCount (line.toList.take count)) := by
  have hline : line = ofList (line.toList.take count) ++ ofList (line.toList.drop count) := by
    rw [← ofList_append, List.take_append_drop, ofList_toList]
  have hvalid := isValid_append (ofList (line.toList.take count)) (ofList (line.toList.drop count))
  rwa [← hline, ← byteCount_eq] at hvalid

/-- The search by the regular expression of a compiled pattern reports parts of the line. -/
theorem inLine_searchOf (h : CompiledPattern.compile lookup maxDepth text = .ok pattern)
    {line : String} {locations : Locations} (hsearch : searchOf pattern line = some locations) :
    locations.InLine line := by
  obtain ⟨spans, hspans, rfl⟩ := Option.map_eq_some_iff.1 hsearch
  intro start stop hmem
  obtain ⟨span?, hspan, hoffsets⟩ := List.mem_map.1 hmem
  obtain ⟨span, rfl, hoffsets⟩ := Option.map_eq_some_iff.1 hoffsets
  cases hoffsets
  refine ⟨?_, isBoundary_take _ _, isBoundary_take _ _⟩
  rw [take_stop (span_le_of_compile h hspans hspan).1, byteCount_append]
  exact Nat.le_add_right _ _

theorem matchLine?_searchOf (h : CompiledPattern.compile lookup maxDepth text = .ok pattern)
    (line : String) :
    matchLine? (searchOf pattern) pattern line = some (pattern.matchLine line) := by
  unfold matchLine? searchOf CompiledPattern.matchLine
  cases hspans : pattern.regex.captures? line.toList with
  | none => rfl
  | some spans =>
      have hfields := @fieldMapFrom?_eq line spans
        (fun span hspan => (span_le_of_compile h hspans hspan).1) 0 .empty pattern.fields
      rw [Option.map_some, Option.map_some]
      dsimp only
      rw [hfields, Option.map_some, Nat.zero_add, List.drop_one]
      rfl

end Compiled

/-- Every cut that is made succeeds: those in pattern texts and fragments always, and those in a
line where the search reports offsets between which there are parts of the line. -/
theorem no_cut_fails (lookup : Lookup) (maxDepth : Nat) (text : String) :
    (∀ text, segments? text = some (segments text)) ∧
      (∀ literal first last, anchoredLiteral? literal first last =
        some (AnchoredLiteral.ofText literal.toList first last)) ∧
      (∀ fragment, ∃ result, neutralize? fragment = some result ∧
        (result.text fragment).toList = neutralizeGroups fragment.toList) ∧
      (∀ input, (openerLength? input).isSome) ∧
      (compile? lookup maxDepth text).run = some (CompiledPattern.compile lookup maxDepth text) ∧
      ∀ pattern, CompiledPattern.compile lookup maxDepth text = .ok pattern → ∀ line,
        matchLine? (searchOf pattern) pattern line = some (pattern.matchLine line) ∧
        ∀ search, (∀ locations, search line = some locations → locations.InLine line) →
          (matchLine? search pattern line).isSome := by
  refine ⟨segments?_eq, anchoredLiteral?_eq, fun fragment => ?_, isSome_openerLength?,
    compile?_eq lookup maxDepth text, fun pattern hpattern line => ⟨?_, fun search hsearch => ?_⟩⟩
  · obtain ⟨result, hresult, htext, -⟩ := exists_neutralize? fragment
    exact ⟨result, hresult, htext⟩
  · exact matchLine?_searchOf hpattern line
  · exact isSome_matchLine? hsearch pattern

/-- Characters of one, two and three bytes around anchors, a name, a class and an escape. -/
theorem no_cut_fails_accents :
    let lookup := (Registry.empty.registerAll
      [⟨"A", "(?P<ä>é)[(](ü|%\x7bB:inner\x7d)\\("⟩, ⟨"B", "€"⟩]).registry.lookup?
    let text := "^né%\x7bA:whole\x7d\\$"
    let line := "néé(€($"
    ∃ pattern, CompiledPattern.compile lookup defaultMaxDepth text = .ok pattern ∧
      pattern.expanded = "^né(?P<f0>(?:é)[(](?:ü|(?P<f1>€))\\()\\$" ∧
      (compile? lookup defaultMaxDepth text).run = some (.ok pattern) ∧
      searchOf pattern line = some [some (0, 11), some (3, 10), some (6, 9)] ∧
      (∀ locations, searchOf pattern line = some locations → locations.InLine line) ∧
      (matchLine? (searchOf pattern) pattern line).isSome ∧
      matchLine? (searchOf pattern) pattern line =
        some (some ⟨[("whole", "é(€("), ("inner", "€")]⟩) := by
  intro lookup text line
  obtain ⟨pattern, hpattern, htest⟩ :
      ∃ pattern, CompiledPattern.compile lookup defaultMaxDepth text = .ok pattern ∧ decide (
        pattern.expanded = "^né(?P<f0>(?:é)[(](?:ü|(?P<f1>€))\\()\\$" ∧
        searchOf pattern line = some [some (0, 11), some (3, 10), some (6, 9)] ∧
        pattern.matchLine line = some ⟨[("whole", "é(€("), ("inner", "€")]⟩) = true :=
    except_exists_ok (by decide +kernel)
  obtain ⟨hexpanded, hsearch, hfields⟩ := of_decide_eq_true htest
  obtain ⟨-, -, -, -, hcompile, hmatch⟩ := no_cut_fails lookup defaultMaxDepth text
  obtain ⟨hline, hisSome⟩ := hmatch pattern hpattern line
  have hinLine : ∀ locations, searchOf pattern line = some locations → locations.InLine line :=
    fun locations hlocations => inLine_searchOf hpattern hlocations
  exact ⟨pattern, hpattern, hexpanded, hpattern ▸ hcompile, hsearch, hinLine,
    hisSome _ hinLine, hfields ▸ hline⟩

end LogPattern.Bytewise
