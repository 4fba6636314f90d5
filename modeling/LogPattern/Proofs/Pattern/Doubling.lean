import LogPattern.Pattern.Compiled
import LogPattern.Proofs.Pattern.PieceRun
import LogPattern.Proofs.Pattern.References
import LogPattern.Proofs.Pattern.Tokenize
import LogPattern.Registry.Basic
import Mathlib.Algebra.Group.Nat.Defs

/-!
# Fragments that double

A fragment that mentions another one twice has an expansion of more than twice its length,
so a few short fragments reach any length.  Here the innermost fragment is empty: every
expansion consists of groups inside groups, and its program stays small.
-/

namespace LogPattern.Doubling

open Regex

def nameAt (level : Nat) : String := "L" ++ toString level

/-- The fragment at level zero is empty, and every other one mentions the one below it twice. -/
def fragmentAt : Nat → String
  | 0 => ""
  | level + 1 => reference (nameAt level) ++ reference (nameAt level)

def Knows (lookup : Lookup) (top : Nat) : Prop :=
  ∀ level ≤ top, lookup (nameAt level) = some (fragmentAt level)

def registry (top : Nat) : Registry :=
  (Registry.empty.registerAll
    ((List.range (top + 1)).map fun level => ⟨nameAt level, fragmentAt level⟩)).registry

def expansionAt : Nat → List Char
  | 0 => ['(', '?', ':', ')']
  | level + 1 => '(' :: '?' :: ':' :: (expansionAt level ++ expansionAt level ++ [')'])

theorem isPatternName_nameAt (level : Nat) : isPatternName (nameAt level) = true := by
  have htext : (nameAt level).toList = 'L' :: (toString level).toList := by
    simp [nameAt]
  have hchars : ∀ c ∈ (nameAt level).toList, isNameChar c = true := by
    intro c hc
    rw [htext, List.mem_cons] at hc
    rcases hc with rfl | hc
    · decide
    · simp [isNameChar, Char.isAlphanum, isDigit_of_mem_toString hc]
  rw [isPatternName, List.all_eq_true.2 hchars, htext]
  rfl

theorem nameAt_inj {level level' : Nat} (h : nameAt level = nameAt level') : level = level' :=
  toString_inj ((String.append_right_inj _).1 h)

/-! ## Expanding -/

theorem segments_fragmentAt (level : Nat) :
    segments (fragmentAt (level + 1)) = [.token (.ofName 0 (nameAt level)),
      .token (.ofName (reference (nameAt level)).utf8ByteSize (nameAt level))] := by
  have hname := isPatternName_nameAt level
  have hsecond := segmentsFrom_reference hname (0 + (reference (nameAt level)).utf8ByteSize) ""
  rw [String.append_empty, String.toList_empty, segmentsFrom_nil, Nat.zero_add] at hsecond
  rw [fragmentAt, segments, segmentsFrom_reference hname, Nat.zero_add, hsecond]
  rfl

theorem byteSize_expansionAt (level : Nat) :
    (String.ofList (expansionAt level)).utf8ByteSize + 4 = 2 ^ (level + 3) := by
  induction level with
  | zero => decide
  | succ level ih =>
      have htext : String.ofList (expansionAt (level + 1)) = "(?:" ++
          (String.ofList (expansionAt level) ++ String.ofList (expansionAt level) ++ ")") := by
        rw [← String.toList_inj]
        simp [expansionAt]
      have hopener : "(?:".utf8ByteSize = 3 := by decide
      have hcloser : ")".utf8ByteSize = 1 := by decide
      rw [htext, String.utf8ByteSize_append, String.utf8ByteSize_append,
        String.utf8ByteSize_append, hopener, hcloser, Nat.pow_succ]
      omega

section Expanding

open Expansion

variable {lookup : Lookup} {maxDepth position depth top level offset : Nat}
  {chain : List String} {before : Expansion}

theorem append_append (before : Expansion) (front back : List Char) :
    (before.append front).append back = before.append (front ++ back) := by
  simp [Expansion.append, String.append_assoc]

theorem byteSize_append (before : Expansion) (text : List Char) :
    (before.append text).text.utf8ByteSize =
      before.text.utf8ByteSize + (String.ofList text).utf8ByteSize := by
  simp [Expansion.append]

theorem checkLength_of_le (h : before.text.utf8ByteSize ≤ maxExpandedLength) :
    before.checkLength chain = .ok before := by
  unfold checkLength
  split
  · omega
  · rfl

theorem expandToken_nameAt_eq (hknows : Knows lookup top) (hlevel : level ≤ top)
    (hfresh : nameAt level ∉ chain) :
    expandToken lookup maxDepth position (depth + 1) chain (.ofName offset (nameAt level)) before =
      ((segments (fragmentAt level)).foldlM
        (expandSegment lookup maxDepth position depth (nameAt level :: chain))
        (before.append ['(', '?', ':'])).map (·.append [')']) := by
  have hfragment : lookup (Token.ofName offset (nameAt level)).name = some (fragmentAt level) :=
    hknows level hlevel
  have hknown : IsKnown lookup (Token.ofName offset (nameAt level)).name :=
    ⟨isPatternName_nameAt level, by rw [hfragment]; rfl⟩
  exact expandToken_succ hknown hfragment hfresh

/-- The empty fragment is expanded without a check of the length. -/
theorem expandToken_nameAt_zero (hknows : Knows lookup top) (hfresh : nameAt 0 ∉ chain) :
    expandToken lookup maxDepth position (depth + 1) chain (.ofName offset (nameAt 0)) before =
      .ok (before.append (expansionAt 0)) := by
  have hsegments : segments (fragmentAt 0) = [] := by decide +kernel
  rw [expandToken_nameAt_eq hknows (Nat.zero_le top) hfresh, hsegments]
  change Except.ok ((before.append ['(', '?', ':']).append [')']) = _
  rw [append_append]
  rfl

/-- A level is expanded as long as its last check is within the limit. -/
theorem expandToken_nameAt (hknows : Knows lookup top) (hlevel : level ≤ top)
    (hdepth : level < depth) (hfresh : ∀ lower ≤ level, nameAt lower ∉ chain)
    (hsize : before.text.utf8ByteSize + 2 ^ (level + 3) ≤ maxExpandedLength + 5) :
    expandToken lookup maxDepth position depth chain (.ofName offset (nameAt level)) before =
      .ok (before.append (expansionAt level)) := by
  induction level generalizing depth chain offset before with
  | zero =>
      obtain ⟨depth, rfl⟩ : ∃ rest, depth = rest + 1 := ⟨depth - 1, by omega⟩
      exact expandToken_nameAt_zero hknows (hfresh 0 (Nat.le_refl 0))
  | succ level ih =>
      obtain ⟨depth, rfl⟩ : ∃ rest, depth = rest + 1 := ⟨depth - 1, by omega⟩
      have hchain : ∀ lower ≤ level, nameAt lower ∉ nameAt (level + 1) :: chain := by
        intro lower hlower
        refine List.not_mem_cons_of_ne_of_not_mem (fun hname => ?_) (hfresh lower (by omega))
        have hsame := nameAt_inj hname
        omega
      have hinner := byteSize_expansionAt level
      -- the first reference leaves room for the second, and the second for the closer
      have hstep {offset : Nat} {before : Expansion}
          (hroom : before.text.utf8ByteSize + 2 ^ (level + 3) ≤ maxExpandedLength + 4) :
          expandSegment lookup maxDepth position depth (nameAt (level + 1) :: chain) before
            (.token (.ofName offset (nameAt level))) = .ok (before.append (expansionAt level)) := by
        rw [expandSegment, ih (by omega) (by omega) hchain (by omega)]
        refine checkLength_of_le ?_
        rw [byteSize_append]
        omega
      have hopener : (String.ofList ['(', '?', ':']).utf8ByteSize = 3 := by decide
      have hpow : 2 ^ (level + 1 + 3) = 2 * 2 ^ (level + 3) := by
        rw [Nat.add_right_comm, Nat.pow_succ, Nat.mul_comm]
      have hpos : 2 ^ 3 ≤ 2 ^ (level + 3) :=
        Nat.pow_le_pow_right (by decide) (Nat.le_add_left 3 level)
      rw [expandToken_nameAt_eq hknows hlevel (hfresh (level + 1) (Nat.le_refl _)),
        segments_fragmentAt, List.foldlM_cons, hstep (by rw [byteSize_append]; omega)]
      dsimp only [bind, Except.bind]
      rw [List.foldlM_cons, hstep (by rw [byteSize_append, byteSize_append]; omega)]
      change Except.ok (Expansion.append _ [')']) = _
      simp only [append_append, expansionAt, List.append_assoc, List.cons_append, List.nil_append]

def doubledText (top : Nat) : String :=
  reference (nameAt top) ++ (reference (nameAt 0) ++ reference (nameAt 0))

def doubledExpansion (top : Nat) : List Char := expansionAt top ++ expansionAt 0 ++ expansionAt 0

/-- The references to the empty fragment are expanded, whatever the length is by then. -/
theorem ofText_doubled (hknows : Knows lookup top) (hdepth : top < maxDepth)
    (hsize : 2 ^ (top + 3) ≤ maxExpandedLength + 5) :
    ofText lookup maxDepth (doubledText top) = .ok (start.append (doubledExpansion top)) := by
  obtain ⟨depth, rfl⟩ : ∃ rest, maxDepth = rest + 1 := ⟨maxDepth - 1, by omega⟩
  have hne : (doubledText top).isEmpty = false := by
    simp [doubledText, reference]
  have hzero := isPatternName_nameAt 0
  have hlast := segmentsFrom_reference hzero
    (0 + (reference (nameAt top)).utf8ByteSize + (reference (nameAt 0)).utf8ByteSize) ""
  rw [String.append_empty, String.toList_empty, segmentsFrom_nil] at hlast
  have hstart : start.text.utf8ByteSize + 2 ^ (top + 3) ≤ maxExpandedLength + 5 := by
    simpa [start] using hsize
  rw [ofText, hne, doubledText, segments, segmentsFrom_reference (isPatternName_nameAt top),
    segmentsFrom_reference hzero, hlast]
  simp only [expandSegments, Bool.false_eq_true, if_false,
    expandToken_nameAt hknows (Nat.le_refl top) hdepth (fun _ _ => List.not_mem_nil) hstart,
    expandToken_nameAt_zero hknows List.not_mem_nil, append_append, doubledExpansion]
  rfl

end Expanding

/-! ## Reading -/

def groupOf (items : List Part) : Part := .group (.plain []) (.sequence items)

def partAt : Nat → Part
  | 0 => groupOf []
  | level + 1 => groupOf [partAt level, partAt level]

theorem depth_partAt (level : Nat) : (partAt level).depth = 2 * level + 1 := by
  induction level with
  | zero => rfl
  | succ level ih =>
      change max (max 0 (partAt level).depth) (partAt level).depth + 1 + 1 = _
      omega

def inGroup (state : Progress) (items : List Part) : Progress :=
  { state with
    items
    branches := []
    openGroups := ⟨.plain [], state.verbose, state.items, state.branches⟩ :: state.openGroups }

section Reading

variable {state : Progress} {text x : List Char} {items : List Part}

theorem reads_groupOf (hverbose : state.verbose = false)
    (hroom : state.openGroups.length < nestLimit) (hdepth : (groupOf items).depth ≤ nestLimit)
    (hinside : (inGroup state []).Reads (state.openGroups.length + 1) (text ++ ')' :: x)
      (inGroup state items) (')' :: x)) :
    state.Reads state.openGroups.length ('(' :: '?' :: ':' :: (text ++ ')' :: x))
      (state.push (groupOf items)) x := by
  have hblank (c : Char) (back : List Char) : skipBlank state.verbose (c :: back) = c :: back := by
    rw [hverbose]
    rfl
  have hopener : readAction state.verbose ('(' :: '?' :: ':' :: (text ++ ')' :: x)) =
      .ok (.enter [], text ++ ')' :: x) := by
    rw [hverbose]
    rfl
  have hopen : (Action.enter []).apply state = .ok (inGroup state []) :=
    if_neg (Nat.not_le.2 hroom)
  have hcontent : (inGroup state items).content = .sequence items := rfl
  have hclose : Action.leave.apply (inGroup state items) = .ok (state.push (groupOf items)) := by
    have hcheck : (groupOf items).checkDepth = .ok (groupOf items) := if_pos hdepth
    change (inGroup state items).closeGroup = _
    unfold Progress.closeGroup
    rw [hcontent]
    simp only [inGroup]
    rw [← groupOf, hcheck]
    rfl
  have hleave : (inGroup state items).Reads state.openGroups.length (')' :: x)
      (state.push (groupOf items)) x :=
    .part (hblank ')' x) rfl hclose (Nat.le_refl _) (.stay _ _)
  exact .part (hblank '(' _) hopener hopen (Nat.le_succ _)
    ((hinside.mono (Nat.le_succ _)).trans hleave)

theorem reads_expansionAt (level : Nat) (hverbose : state.verbose = false)
    (hroom : state.openGroups.length + 2 * level + 1 ≤ nestLimit) :
    state.Reads state.openGroups.length (expansionAt level ++ x) (state.push (partAt level)) x := by
  induction level generalizing state x with
  | zero =>
      have hdepth : (groupOf []).depth ≤ nestLimit := by decide
      exact @reads_groupOf state [] x [] hverbose (by omega) hdepth (.stay _ _)
  | succ level ih =>
      have hinside (items : List Part) (back : List Char) :
          (inGroup state items).Reads (state.openGroups.length + 1) (expansionAt level ++ back)
            (inGroup state (partAt level :: items)) back := by
        refine @ih (inGroup state items) back hverbose ?_
        simp only [inGroup, List.length_cons]
        omega
      have hdepth : (partAt (level + 1)).depth ≤ nestLimit := by
        rw [depth_partAt]
        omega
      have htext : expansionAt (level + 1) ++ x = '(' :: '?' :: ':' ::
          (expansionAt level ++ expansionAt level ++ ')' :: x) := by
        simp [expansionAt]
      rw [htext]
      refine reads_groupOf hverbose (by omega) hdepth ?_
      rw [List.append_assoc]
      exact (hinside [] _).trans (hinside [partAt level] _)

theorem tree_doubledExpansion {top : Nat} (h : 2 * top + 2 ≤ nestLimit) :
    Tree.ofText? (doubledExpansion top) =
      .ok (.sequence [(partAt top).tree, (partAt 0).tree, (partAt 0).tree]) := by
  have hread (state : Progress) (hverbose : state.verbose = false) (hopen : state.openGroups = [])
      {level : Nat} (hlevel : level ≤ top) (back : List Char) :
      state.Reads 0 (expansionAt level ++ back) (state.push (partAt level)) back := by
    have hroom : state.openGroups.length + 2 * level + 1 ≤ nestLimit := by
      rw [hopen, List.length_nil]
      omega
    have hreads := @reads_expansionAt state back level hverbose hroom
    rwa [hopen] at hreads
  let first := Progress.start.push (partAt top)
  let second := first.push (partAt 0)
  have htop := hread .start rfl rfl (Nat.le_refl top) (expansionAt 0 ++ (expansionAt 0 ++ []))
  have hmiddle := hread first rfl rfl (Nat.zero_le top) (expansionAt 0 ++ [])
  have hlast := hread second rfl rfl (Nat.zero_le top) []
  have htext :
      expansionAt top ++ (expansionAt 0 ++ (expansionAt 0 ++ [])) = doubledExpansion top := by
    simp [doubledExpansion]
  rw [htext] at htop
  have hparts := readParts_of_reads ((htop.trans hmiddle).trans hlast) rfl (Nat.le_refl _)
  have hdepth : (Part.sequence [partAt 0, partAt 0, partAt top]).depth ≤ nestLimit := by
    have htop := depth_partAt top
    change max (max (max 0 1) 1) (partAt top).depth + 1 ≤ nestLimit
    omega
  exact Tree.ofText?_eq_ok_iff.2 ⟨second.push (partAt 0), hparts, rfl, hdepth, rfl⟩

end Reading

/-! ## The program -/

def exprAt : Nat → Expr
  | 0 => .empty
  | level + 1 => .sequence [exprAt level, exprAt level]

theorem resolve_partAt (level : Nat) (modes : Modes) :
    (partAt level).tree.resolve modes = .ok (exprAt level, modes) := by
  induction level generalizing modes with
  | zero => rfl
  | succ level ih =>
      have htree : (partAt (level + 1)).tree =
          .group (.plain []) (.sequence [(partAt level).tree, (partAt level).tree]) := rfl
      simp only [htree, Tree.resolve, Tree.resolveAll, ih]
      rfl

/-- Every level doubles the states. -/
theorem count_exprAt (level copies : Nat) (inventory : Inventory) :
    (exprAt level).count copies inventory = inventory.addStates (2 ^ level * copies) 0 := by
  induction level generalizing inventory with
  | zero => rw [exprAt, Expr.count, Nat.pow_zero, Nat.one_mul]
  | succ level ih =>
      have hadd (states more : Nat) : (inventory.addStates states 0).addStates more 0 =
          inventory.addStates (states + more) 0 := by
        simp [Inventory.addStates, Footprint.add, Nat.add_assoc]
      rw [exprAt, Expr.count, Expr.countAll, Expr.countAll, Expr.countAll, ih, ih, hadd,
        Nat.pow_succ, ← Nat.two_mul, ← Nat.mul_assoc, Nat.mul_comm 2]

theorem lastCapture_exprAt (level most : Nat) : (exprAt level).lastCapture most = most := by
  induction level with
  | zero => rfl
  | succ level ih =>
      rw [exprAt, Expr.lastCapture, Expr.lastCaptureOfAll, Expr.lastCaptureOfAll,
        Expr.lastCaptureOfAll, ih, ih]

def doubledExpr (top : Nat) : Expr := .sequence [exprAt top, exprAt 0, exprAt 0]

theorem captureCount_doubledExpr (top : Nat) : (doubledExpr top).captureCount = 0 := by
  simp only [doubledExpr, Expr.captureCount, Expr.lastCapture, Expr.lastCaptureOfAll,
    lastCapture_exprAt]

theorem fits_doubledExpr {top : Nat} (h : top ≤ 17) : (doubledExpr top).fits = true := by
  have hcount : (doubledExpr top).count 1 .empty =
      ((Inventory.empty.addStates (2 ^ top * 1) 0).addStates (2 ^ 0 * 1) 0).addStates
        (2 ^ 0 * 1) 0 := by
    simp only [doubledExpr, Expr.count, Expr.countAll, count_exprAt]
  have hpow : 2 ^ top ≤ 2 ^ 17 := Nat.pow_le_pow_right (by decide) h
  rw [Expr.fits, hcount]
  simp [Inventory.fits, Inventory.forwardCost, Inventory.backwardCost, Inventory.addStates,
    Inventory.empty, Footprint.add, Footprint.zero, Footprint.cost, stateCost, edgeCost, jumpCost,
    footprintLimit]
  omega

theorem regex_doubledExpansion {top : Nat} (h : top ≤ 17) :
    Regex.ofText? (doubledExpansion top) = .ok ⟨(doubledExpr top).program, 0⟩ := by
  have hexpr : (Tree.sequence [(partAt top).tree, (partAt 0).tree, (partAt 0).tree]).expr =
      .ok (doubledExpr top) := by
    simp only [Tree.expr, Tree.resolve, Tree.resolveAll, resolve_partAt]
    rfl
  have hshallow : 2 * top + 2 ≤ nestLimit := by
    unfold nestLimit
    omega
  simp only [Regex.ofText?, tree_doubledExpansion hshallow, hexpr, fits_doubledExpr h, if_true,
    captureCount_doubledExpr]

/-- Up to the seventeenth level the text compiles, with an expansion of the full length. -/
theorem exists_compiled {lookup : Lookup} {maxDepth top : Nat} (hknows : Knows lookup top)
    (hdepth : top < maxDepth) (htop : top ≤ 17) :
    ∃ pattern, CompiledPattern.compile lookup maxDepth (doubledText top) = .ok pattern ∧
      pattern.expanded.utf8ByteSize = 2 ^ (top + 3) + 4 := by
  have hpow : 2 ^ (top + 3) ≤ 2 ^ 20 := Nat.pow_le_pow_right (by decide) (by omega)
  have hexpand := ofText_doubled hknows hdepth (by unfold maxExpandedLength; omega)
  have hregex := regex_doubledExpansion htop
  have htext :
      (Expansion.start.append (doubledExpansion top)).text.toList = doubledExpansion top := by
    simp [Expansion.start, Expansion.append]
  have hbytes := byteSize_expansionAt top
  have hzero : (String.ofList (expansionAt 0)).utf8ByteSize = 4 := by decide
  refine ⟨⟨doubledText top, (Expansion.start.append (doubledExpansion top)).text,
    ⟨(doubledExpr top).program, 0⟩, []⟩, ?_, ?_⟩
  · simp only [CompiledPattern.compile, hexpand, htext, hregex]
    rfl
  · simp only [byteSize_append, doubledExpansion, String.ofList_append, String.utf8ByteSize_append,
      Expansion.start, String.utf8ByteSize_empty, hzero]
    omega

/-- The seventeenth level is the last one within the limit, so its text passes the limit. -/
theorem exists_compiled_seventeen :
    ∃ pattern, CompiledPattern.compile (registry 17).lookup? defaultMaxDepth "%{L17}%{L0}%{L0}" =
        .ok pattern ∧ pattern.expanded.utf8ByteSize = 1048580 := by
  have hknows : Knows (registry 17).lookup? 17 := by
    have hlevels : ∀ level < 18,
        (registry 17).lookup? (nameAt level) = some (fragmentAt level) := by decide +kernel
    exact fun level hlevel => hlevels level (Nat.lt_succ_of_le hlevel)
  have htext : doubledText 17 = "%{L17}%{L0}%{L0}" := by decide +kernel
  exact htext ▸ exists_compiled hknows (by decide) (Nat.le_refl 17)

end LogPattern.Doubling
