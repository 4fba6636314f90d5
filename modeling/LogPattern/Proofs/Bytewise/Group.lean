import LogPattern.Proofs.Bytewise.Opener
import LogPattern.Proofs.Pattern.Rescan

/-!
# Replacing openers by offsets

The scan for groups goes through the bytes of a fragment.  It keeps the offset up to which the
fragment is copied, and cuts out what stands between this offset and the next opener that is to
be replaced.  It goes in step with the scan by characters: the bytes of other characters than
ASCII characters change nothing, and so every cut is made between characters.
-/

namespace LogPattern.Bytewise

open String

/-- Where the scan through the bytes of a fragment stands, and what it has found. -/
structure GroupScan where
  position : Nat
  escaped : Bool
  classDepth : Nat
  /-- Where the first member of the class that was opened last stands. -/
  classStart : Option Nat
  /-- How far the fragment is copied. -/
  copied : Nat
  out : String
  changed : Bool
deriving DecidableEq, Repr

namespace GroupScan

def start : GroupScan := ⟨0, false, 0, none, 0, "", false⟩

def pass (scan : GroupScan) (count : Nat) : GroupScan :=
  { scan with position := scan.position + count }

theorem pass_pass (scan : GroupScan) (m n : Nat) : (scan.pass m).pass n = scan.pass (m + n) := by
  rw [pass, pass, pass, Nat.add_assoc]

def open? (fragment : String) (scan : GroupScan) : Option GroupScan :=
  ((bytesFrom? (utf8Bytes fragment) scan.position).bind openerLength?).bind fun
    | none => some (scan.pass 1)
    | some length =>
        (slice? fragment scan.copied scan.position).map fun kept =>
          { scan with
            position := scan.position + length
            copied := scan.position + length
            out := scan.out ++ kept ++ "(?:"
            changed := true }

def step? (fragment : String) (scan : GroupScan) : Option GroupScan :=
  let bytes := utf8Bytes fragment
  let place := scan.position
  bytes[place]?.bind fun byte =>
    if scan.escaped then some { scan.pass 1 with escaped := false }
    else if byte = '\\'.toUInt8 then some { scan.pass 1 with escaped := true }
    else if byte = '['.toUInt8 then
      some { scan.pass 1 with
        classDepth := scan.classDepth + 1
        classStart := some (if bytes[place + 1]? = some '^'.toUInt8 then place + 2 else place + 1) }
    else if byte = ']'.toUInt8 ∧ scan.classDepth > 0 ∧ scan.classStart ≠ some place then
      some { scan.pass 1 with classDepth := scan.classDepth - 1 }
    else if byte = '('.toUInt8 ∧ scan.classDepth = 0 then scan.open? fragment
    else some (scan.pass 1)

section Steps

variable {fragment : String} {scan after : GroupScan}

theorem position_lt_of_open? (h : scan.open? fragment = some after) :
    scan.position < after.position := by
  obtain ⟨length?, hlength, h⟩ := Option.bind_eq_some_iff.1 h
  obtain ⟨input, -, hlength⟩ := Option.bind_eq_some_iff.1 hlength
  cases length? with
  | none =>
      cases h
      exact Nat.lt_succ_self _
  | some length =>
      obtain ⟨kept, -, rfl⟩ := Option.map_eq_some_iff.1 h
      exact Nat.lt_add_of_pos_right (pos_of_openerLength? hlength)

theorem position_lt_of_step? (h : scan.step? fragment = some after) :
    scan.position < after.position := by
  have pass : scan.position < (scan.pass 1).position := Nat.lt_succ_self _
  obtain ⟨byte, -, h⟩ := Option.bind_eq_some_iff.1 h
  split at h
  · cases h
    exact pass
  split at h
  · cases h
    exact pass
  split at h
  · cases h
    exact pass
  split at h
  · cases h
    exact pass
  split at h
  · exact position_lt_of_open? h
  · cases h
    exact pass

end Steps

def run? (fragment : String) (scan : GroupScan) : Option GroupScan :=
  if scan.position < (utf8Bytes fragment).length then
    match _h : scan.step? fragment with
    | some after => after.run? fragment
    | none => none
  else some scan
termination_by (utf8Bytes fragment).length - scan.position
decreasing_by
  have hlt := position_lt_of_step? _h
  omega

end GroupScan

/-- A fragment with its groups made plain: as it stands, or written anew. -/
inductive Neutralized where
  | same
  | rewritten (text : String)
deriving DecidableEq, Repr

def Neutralized.text (fragment : String) : Neutralized → String
  | .same => fragment
  | .rewritten text => text

def neutralize? (fragment : String) : Option Neutralized :=
  if '(' ∈ fragment.toList then
    (GroupScan.start.run? fragment).bind fun scan =>
      if scan.changed then
        (sliceFrom? fragment scan.copied).map fun rest => .rewritten (scan.out ++ rest)
      else some .same
  else some .same

/-! ## In step with the scan by characters -/

namespace GroupScan

variable {fragment : String} {scan after : GroupScan} {front done rest : List Char}
  {state : ScanState} {c : Char}

theorem run?_of_step (h : scan.step? fragment = some after) :
    scan.run? fragment = after.run? fragment := by
  obtain ⟨byte, hbyte, -⟩ := Option.bind_eq_some_iff.1 h
  rw [run?, if_pos (List.getElem?_eq_some_iff.1 hbyte).1]
  split
  · next hstep =>
      rw [h] at hstep
      cases hstep
      rfl
  · next hstep =>
      rw [h] at hstep
      cases hstep

theorem run?_of_end (h : scan.position = (utf8Bytes fragment).length) :
    scan.run? fragment = some scan := by
  rw [run?, if_neg (by omega)]

/-- The bytes of other characters than ASCII characters change nothing. -/
theorem run?_of_high {bytes high back : List UInt8} (hhigh : ∀ byte ∈ high, 128 ≤ byte.toNat)
    (hescaped : high ≠ [] → scan.escaped = false)
    (hbytes : utf8Bytes fragment = bytes ++ high ++ back)
    (hposition : scan.position = bytes.length) :
    scan.run? fragment = (scan.pass high.length).run? fragment := by
  induction high generalizing scan bytes with
  | nil => rfl
  | cons byte high ih =>
      rw [List.forall_mem_cons] at hhigh
      have hother {mark : Char} (h : IsAscii mark) : byte ≠ mark.toUInt8 :=
        ne_toUInt8_of_high hhigh.1 h
      have hread : (utf8Bytes fragment)[scan.position]? = some byte := by
        rw [hbytes, hposition]
        simp
      have hstep : scan.step? fragment = some (scan.pass 1) := by
        rw [step?, hread, Option.bind_some, hescaped (List.cons_ne_nil _ _), if_neg (by decide),
          if_neg (hother (by decide)), if_neg (hother (by decide)),
          if_neg fun h => hother (by decide) h.1, if_neg fun h => hother (by decide) h.1]
      have hrest := @ih (scan.pass 1) (bytes ++ [byte]) hhigh.2
        (fun _ => hescaped (List.cons_ne_nil _ _)) (by rw [hbytes]; simp)
        (by simp [pass, hposition])
      rw [run?_of_step hstep, hrest, pass_pass, List.length_cons, Nat.add_comm]

/-- Where the first member of the class stands that was opened last. -/
def ClassStartsAt (ahead position : Nat) (rest : List Char) (classStart : Option Nat) : Prop :=
  ∃ place, classStart = some place ∧
    (ahead = 0 ∧ place < position ∨ ahead = 1 ∧ place = position ∨
      ahead = 2 ∧ place = position + 1 ∧ rest.head? = some '^')

theorem ClassStartsAt.next {ahead position : Nat} {classStart : Option Nat}
    (h : ClassStartsAt ahead position (c :: rest) classStart) :
    ClassStartsAt (ahead - 1) (position + c.utf8Size) rest classStart := by
  have hsize := c.utf8Size_pos
  obtain ⟨place, rfl, ⟨rfl, hplace⟩ | ⟨rfl, rfl⟩ | ⟨rfl, rfl, hcaret⟩⟩ := h
  · exact ⟨place, rfl, .inl ⟨rfl, by omega⟩⟩
  · exact ⟨place, rfl, .inl ⟨rfl, by omega⟩⟩
  · cases hcaret
    exact ⟨_, rfl, .inr (.inl ⟨rfl, rfl⟩)⟩

theorem ClassStartsAt.ne_iff {position : Nat} {classStart : Option Nat}
    (h : ClassStartsAt state.toClassStart position rest classStart) :
    classStart ≠ some position ↔ (!state.atClassStart) = true := by
  obtain ⟨place, rfl, h⟩ := h
  simp [ScanState.atClassStart]
  omega

/-- The loop stands where the scan by characters does, and has the same result so far. -/
structure Follows (fragment : String) (front done rest : List Char) (state : ScanState)
    (scan : GroupScan) : Prop where
  toList : fragment.toList = front ++ rest
  position : scan.position = byteCount front
  escaped : scan.escaped = state.escaped
  classDepth : scan.classDepth = state.classDepth
  classStart : state.classDepth ≠ 0 →
    ClassStartsAt state.toClassStart scan.position rest scan.classStart
  out : ∃ before kept, front = before ++ kept ∧ scan.copied = byteCount before ∧
    scan.out.toList ++ kept = done

theorem Follows.read (h : Follows fragment front done (c :: rest) state scan) {byte : UInt8}
    {more : List UInt8} (hc : utf8EncodeChar c = byte :: more) :
    (utf8Bytes fragment)[scan.position]? = some byte := by
  rw [utf8Bytes_of_toList h.toList, h.position, encode_append, encode_cons, hc, ← length_encode]
  simp

theorem Follows.bytesFrom? (h : Follows fragment front done rest state scan) :
    bytesFrom? (utf8Bytes fragment) scan.position = some (encode rest) := by
  rw [utf8Bytes_of_toList h.toList, h.position, bytesFrom?_encode]

theorem Follows.caret_iff (h : Follows fragment front done ('[' :: rest) state scan) :
    (utf8Bytes fragment)[scan.position + 1]? = some '^'.toUInt8 ↔ rest.head? = some '^' := by
  have hbehind := @getElem?_encode_append (front ++ ['[']) '^' (by decide) rest
  rw [byteCount_append, List.append_assoc, List.singleton_append] at hbehind
  rw [utf8Bytes_of_toList h.toList, h.position]
  exact hbehind

/-- At the first byte of a character the loop does what the character asks for. -/
theorem Follows.step?_eq (h : Follows fragment front done (c :: rest) state scan) :
    scan.step? fragment =
      if state.escaped then some { scan.pass 1 with escaped := false }
      else if c = '\\' then some { scan.pass 1 with escaped := true }
      else if c = '[' then
        some { scan.pass 1 with
          classDepth := scan.classDepth + 1
          classStart := some (scan.position + if rest.head? = some '^' then 2 else 1) }
      else if c = ']' ∧ state.classDepth > 0 ∧ !state.atClassStart then
        some { scan.pass 1 with classDepth := scan.classDepth - 1 }
      else if c = '(' ∧ state.classDepth = 0 then scan.open? fragment
      else some (scan.pass 1) := by
  obtain ⟨byte, more, hc, -, hmark⟩ := exists_utf8EncodeChar c
  have hends : (c = ']' ∧ scan.classDepth > 0 ∧ scan.classStart ≠ some scan.position) ↔
      (c = ']' ∧ state.classDepth > 0 ∧ (!state.atClassStart) = true) := by
    rw [h.classDepth]
    refine and_congr_right fun _ => and_congr_right fun hdepth => ?_
    exact (h.classStart (Nat.ne_of_gt hdepth)).ne_iff
  rw [step?, h.read hc, Option.bind_some]
  simp only [hmark '\\' (by decide), hmark '[' (by decide), hmark ']' (by decide),
    hmark '(' (by decide), hends, h.escaped]
  rw [h.classDepth]
  split
  · rfl
  split
  · rfl
  split
  · next hbracket =>
      subst hbracket
      simp only [h.caret_iff]
      split <;> rfl
  · rfl

theorem Follows.step?_of_none (h : Follows fragment front done (c :: rest) state scan)
    (hnone : state.openerTail? c rest = none) :
    ∃ classStart, scan.step? fragment =
        some { scan.pass 1 with
          escaped := (state.next c rest).escaped
          classDepth := (state.next c rest).classDepth
          classStart } ∧
      ((state.next c rest).classDepth ≠ 0 →
        ClassStartsAt (state.next c rest).toClassStart (scan.position + c.utf8Size) rest
          classStart) := by
  have hkeep : state.classDepth ≠ 0 →
      ClassStartsAt (state.toClassStart - 1) (scan.position + c.utf8Size) rest scan.classStart :=
    fun hdepth => (h.classStart hdepth).next
  have hopen (hescaped : ¬ state.escaped = true) (hparen : c = '(' ∧ state.classDepth = 0) :
      scan.open? fragment = some (scan.pass 1) := by
    obtain ⟨rfl, hdepth⟩ := hparen
    have hgroup : state.opensGroup '(' = true :=
      ScanState.opensGroup_iff.2 ⟨rfl, Bool.eq_false_iff.2 hescaped, hdepth⟩
    rw [ScanState.openerTail?, if_pos hgroup] at hnone
    rw [open?, h.bytesFrom?, Option.bind_some, openerLength?_encode, hnone]
    rfl
  rw [h.step?_eq]
  obtain ⟨position, escaped, depth, classStart, copied, out, changed⟩ := scan
  obtain ⟨_, _, ahead⟩ := state
  cases h.escaped
  cases h.classDepth
  dsimp only at hkeep hopen ⊢
  rw [ScanState.next]
  cases escaped with
  | true => exact ⟨classStart, rfl, hkeep⟩
  | false =>
      dsimp only
      simp only [Bool.false_eq_true, if_false]
      split_ifs with hslash hbracket hhead hcloses hparen
      · exact ⟨classStart, rfl, hkeep⟩
      · subst hbracket
        exact ⟨_, rfl, fun _ => ⟨_, rfl, .inr (.inr ⟨rfl, rfl, hhead⟩)⟩⟩
      · subst hbracket
        exact ⟨_, rfl, fun _ => ⟨_, rfl, .inr (.inl ⟨rfl, rfl⟩)⟩⟩
      · exact ⟨classStart, rfl, fun _ => hkeep (Nat.ne_of_gt hcloses.2.1)⟩
      · exact ⟨classStart, hopen Bool.false_ne_true hparen, hkeep⟩
      · exact ⟨classStart, rfl, hkeep⟩

theorem eq_backslash_of_escaped_next (h : (state.next c rest).escaped = true) : c = '\\' := by
  unfold ScanState.next at h
  split_ifs at h with hescaped hslash
  · exact hslash
  · exact absurd h hescaped

/-- A character that is kept is passed over, in as many steps as it has bytes. -/
theorem Follows.of_none (h : Follows fragment front done (c :: rest) state scan)
    (hnone : state.openerTail? c rest = none) :
    ∃ after, scan.run? fragment = after.run? fragment ∧ after.changed = scan.changed ∧
      Follows fragment (front ++ [c]) (done ++ [c]) rest (state.next c rest) after := by
  obtain ⟨classStart, hstep, hclass⟩ := h.step?_of_none hnone
  obtain ⟨byte, more, hc, hmore, -⟩ := exists_utf8EncodeChar c
  have hbytes : utf8Bytes fragment = (encode front ++ [byte]) ++ more ++ encode rest := by
    rw [utf8Bytes_of_toList h.toList, encode_append, encode_cons, hc]
    simp
  have hsize : c.utf8Size = 1 + more.length := by
    rw [← length_utf8EncodeChar, hc, List.length_cons, Nat.add_comm]
  have hescaped (hne : more ≠ []) : (state.next c rest).escaped = false := by
    refine Bool.eq_false_iff.2 fun hslash => hne ?_
    rw [eq_backslash_of_escaped_next hslash] at hc
    exact (List.cons.inj hc).2.symm
  have hposition : scan.position + 1 = (encode front ++ [byte]).length := by
    rw [List.length_append, length_encode, h.position, List.length_singleton]
  refine ⟨_, (run?_of_step hstep).trans (run?_of_high hmore hescaped hbytes hposition), rfl, ?_⟩
  obtain ⟨before, kept, rfl, hcopied, rfl⟩ := h.out
  constructor
  · rw [h.toList, List.append_assoc _ [c], List.singleton_append]
  · show scan.position + 1 + more.length = _
    rw [h.position, byteCount_append _ [c], byteCount_cons, byteCount_nil, hsize]
    omega
  · rfl
  · rfl
  · intro hdepth
    have hstart := hclass hdepth
    rwa [hsize, ← Nat.add_assoc] at hstart
  · exact ⟨before, kept ++ [c], List.append_assoc _ _ _, hcopied, (List.append_assoc _ _ _).symm⟩

theorem Follows.step?_of_opensGroup (h : Follows fragment front done ('(' :: rest) state scan)
    (hgroup : state.opensGroup '(' = true) : scan.step? fragment = scan.open? fragment := by
  obtain ⟨-, hescaped, hdepth⟩ := ScanState.opensGroup_iff.1 hgroup
  rw [h.step?_eq, hescaped, hdepth]
  rfl

/-- The opener of a capturing group is replaced in one step. -/
theorem Follows.of_some (h : Follows fragment front done (c :: rest) state scan) {tail : List Char}
    (hsome : state.openerTail? c rest = some tail) :
    ∃ after, scan.run? fragment = after.run? fragment ∧ after.changed = true ∧
      Follows fragment (front ++ (c :: tail)) (done ++ ['(', '?', ':']) (rest.drop tail.length)
        (state.next c rest) after := by
  obtain ⟨hgroup, -, back, rfl, -⟩ := ScanState.openerTail?_eq_some hsome
  obtain ⟨rfl, hescaped, hdepth⟩ := ScanState.opensGroup_iff.1 hgroup
  obtain ⟨before, kept, rfl, hcopied, rfl⟩ := h.out
  have hslice : slice? fragment scan.copied scan.position = some (ofList kept) := by
    rw [hcopied, h.position, byteCount_append]
    exact slice?_of_toList h.toList
  rw [ScanState.openerTail?, if_pos hgroup] at hsome
  have hstep : scan.step? fragment = some { scan with
      position := scan.position + byteCount ('(' :: tail)
      copied := scan.position + byteCount ('(' :: tail)
      out := scan.out ++ ofList kept ++ "(?:"
      changed := true } := by
    rw [h.step?_of_opensGroup hgroup, open?, h.bytesFrom?, Option.bind_some, openerLength?_encode,
      hsome, Option.map_some, Option.bind_some, hslice]
    rfl
  refine ⟨_, run?_of_step hstep, rfl, ?_⟩
  have houtside : (state.next '(' (tail ++ back)).Outside :=
    ScanState.Outside.next ⟨hescaped, hdepth⟩ (by decide) (by decide) _
  have hposition : scan.position + byteCount ('(' :: tail) =
      byteCount (before ++ kept ++ '(' :: tail) := by
    rw [h.position, byteCount_append _ ('(' :: tail)]
  constructor
  · rw [h.toList]
    simp
  · exact hposition
  · exact h.escaped.trans (hescaped.trans houtside.1.symm)
  · exact h.classDepth.trans (hdepth.trans houtside.2.symm)
  · exact fun hdepth => absurd houtside.2 hdepth
  · exact ⟨_, [], (List.append_nil _).symm, hposition, by simp⟩

theorem Follows.reading (h : Follows fragment front done (c :: rest) state scan) :
    ∃ after, scan.run? fragment = after.run? fragment ∧
      after.changed = (scan.changed || (state.openerTail? c rest).isSome) ∧
      Follows fragment (front ++ (c :: (state.openerTail? c rest).getD []))
        (done ++ if (state.openerTail? c rest).isSome then ['(', '?', ':'] else [c])
        (rest.drop ((state.openerTail? c rest).getD []).length) (state.next c rest) after := by
  cases htail : state.openerTail? c rest with
  | none =>
      obtain ⟨after, hrun, hchanged, hafter⟩ := h.of_none htail
      exact ⟨after, hrun, by rw [hchanged, Option.isSome_none, Bool.or_false], hafter⟩
  | some tail =>
      obtain ⟨after, hrun, hchanged, hafter⟩ := h.of_some htail
      exact ⟨after, hrun, by rw [hchanged, Option.isSome_some, Bool.or_true], hafter⟩

/-- The loop comes to the end of every fragment, in step with the scan by characters. -/
theorem Follows.run? (h : Follows fragment front done rest state scan) :
    ∃ last, scan.run? fragment = some last ∧
      last.changed = (scan.changed || (state.readings rest).any (·.tail?.isSome)) ∧
      Follows fragment fragment.toList (done ++ state.scan rest) []
        (state.behind (state.readings rest)) last := by
  fun_induction ScanState.readings state rest generalizing front done scan with
  | case1 state =>
      have htext : fragment.toList = front := by rw [h.toList, List.append_nil]
      have hend : scan.position = (utf8Bytes fragment).length := by
        rw [h.position, utf8Bytes_of_toList htext, length_encode]
      refine ⟨scan, run?_of_end hend, by simp, ?_⟩
      rw [htext]
      simpa using h
  | case2 state c rest ih =>
      obtain ⟨after, hrun, hchanged, hafter⟩ := h.reading
      obtain ⟨last, hlast, hany, hfollows⟩ := ih hafter
      refine ⟨last, hrun.trans hlast, ?_, ?_⟩
      · rw [hany, hchanged, List.any_cons, Bool.or_assoc]
      · rwa [List.append_assoc, ← ScanState.scan_cons] at hfollows

theorem follows_start (fragment : String) :
    Follows fragment [] [] fragment.toList .start start := by
  constructor
  · rfl
  · rfl
  · rfl
  · rfl
  · exact fun hdepth => absurd rfl hdepth
  · exact ⟨[], [], rfl, rfl, rfl⟩

end GroupScan

theorem exists_run? (fragment : String) :
    ∃ last, GroupScan.start.run? fragment = some last ∧
      last.escaped = (ScanState.start.behind (ScanState.start.readings fragment.toList)).escaped ∧
      last.classDepth =
        (ScanState.start.behind (ScanState.start.readings fragment.toList)).classDepth ∧
      (last.changed = false ↔ neutralizeGroups fragment.toList = fragment.toList) ∧
      ∃ rest, sliceFrom? fragment last.copied = some rest ∧
        (last.out ++ rest).toList = neutralizeGroups fragment.toList := by
  obtain ⟨last, hlast, hchanged, hfollows⟩ := (GroupScan.follows_start fragment).run?
  refine ⟨last, hlast, hfollows.escaped, hfollows.classDepth, ?_, ?_⟩
  · have hself := @ScanState.scan_eq_self_iff .start fragment.toList
    rw [hchanged, neutralizeGroups, ← ScanState.scan, hself]
    simp [GroupScan.start]
  · obtain ⟨before, kept, hfront, hcopied, hout⟩ := hfollows.out
    refine ⟨ofList kept, ?_, ?_⟩
    · rw [hcopied]
      exact sliceFrom?_of_toList hfront
    · rw [toList_append, toList_ofList, hout]
      rfl

/-- The groups of every fragment can be made plain, and a fragment stays where nothing changes. -/
theorem exists_neutralize? (fragment : String) :
    ∃ result, neutralize? fragment = some result ∧
      (result.text fragment).toList = neutralizeGroups fragment.toList ∧
      (result = .same ↔ neutralizeGroups fragment.toList = fragment.toList) := by
  obtain ⟨last, hlast, -, -, hchanged, rest, hrest, hout⟩ := exists_run? fragment
  unfold neutralize?
  split
  · rw [hlast, Option.bind_some]
    split
    · next hrewritten =>
        have hne : neutralizeGroups fragment.toList ≠ fragment.toList :=
          mt hchanged.2 (by simp [hrewritten])
        exact ⟨_, congrArg (Option.map _) hrest, hout, by simp [hne]⟩
    · next hkept =>
        have hsame := hchanged.1 (Bool.eq_false_iff.2 hkept)
        exact ⟨.same, rfl, hsame.symm, by simp [hsame]⟩
  · next hparen =>
      have hsame : neutralizeGroups fragment.toList = fragment.toList :=
        ScanState.scan_of_notMem hparen
      exact ⟨.same, rfl, hsame.symm, by simp [hsame]⟩

/--
Replacing openers is idempotent and changes nothing else.  The fragment is kept as it is just
where nothing changes.  Its readings give it back, and with `(?:` for the openers of capturing
groups they give the result; all of these stand outside classes, and nothing escapes them.  So the
loop ends in the result as it ends in the fragment, and the parentheses are as balanced.
-/
theorem neutralize_minimal (fragment : String) :
    neutralizeGroups (neutralizeGroups fragment.toList) = neutralizeGroups fragment.toList ∧
      (∃ result, neutralize? fragment = some result ∧
        (result.text fragment).toList = neutralizeGroups fragment.toList ∧
        (result = .same ↔ neutralizeGroups fragment.toList = fragment.toList)) ∧
      ((ScanState.start.readings fragment.toList).flatMap Reading.text = fragment.toList ∧
        (ScanState.start.readings fragment.toList).flatMap Reading.written =
          neutralizeGroups fragment.toList ∧
        ∀ reading ∈ ScanState.start.readings fragment.toList, ∀ tail,
          reading.tail? = some tail → reading.char = '(' ∧ reading.before.escaped = false ∧
            reading.before.classDepth = 0 ∧ OpensCapture ('(' :: tail)) ∧
      (∃ last last', GroupScan.start.run? fragment = some last ∧
        GroupScan.start.run? (ofList (neutralizeGroups fragment.toList)) = some last' ∧
        last'.escaped = last.escaped ∧ last'.classDepth = last.classDepth) ∧
      Reading.balance (ScanState.start.readings (neutralizeGroups fragment.toList)) =
        Reading.balance (ScanState.start.readings fragment.toList) := by
  obtain ⟨-, hbehind, hbalance⟩ := ScanState.rescanned (.refl .start) fragment.toList
  obtain ⟨last, hlast, hescaped, hdepth, -⟩ := exists_run? fragment
  obtain ⟨last', hlast', hescaped', hdepth', -⟩ :=
    exists_run? (ofList (neutralizeGroups fragment.toList))
  rw [toList_ofList] at hescaped' hdepth'
  refine ⟨ScanState.scan_scan .start fragment.toList, exists_neutralize? fragment,
    ⟨ScanState.flatMap_text_readings _ _, ScanState.flatMap_written_readings _ _,
      fun reading hreading tail htail => ScanState.opener_of_mem_readings hreading htail⟩,
    ⟨last, last', hlast, hlast', ?_, ?_⟩, hbalance⟩
  · exact hescaped'.trans (hbehind.escaped.trans hescaped.symm)
  · exact hdepth'.trans (hbehind.classDepth.trans hdepth.symm)

/-- Parentheses behind a backslash, in a class and in a name, and groups in one another. -/
theorem neutralize_minimal_nested :
    let fragment := "ä\\([(](?P<(n>(b))"
    let result := "ä\\([(](?:(?:b))".toList
    neutralizeGroups fragment.toList = result ∧ neutralizeGroups result = result ∧
      neutralize? fragment = some (.rewritten (ofList result)) ∧
      (∃ reading ∈ ScanState.start.readings fragment.toList,
        reading.tail? = some "?P<(n>".toList ∧ reading.before.classDepth = 0 ∧
          OpensCapture "(?P<(n>".toList) ∧
      Reading.balance (ScanState.start.readings fragment.toList) = 0 ∧
      Reading.balance (ScanState.start.readings result) = 0 := by
  intro fragment result
  have hresult : neutralizeGroups fragment.toList = result := by decide +kernel
  have hname : (ScanState.start.readings fragment.toList)[6]?.any
      (·.tail? = some "?P<(n>".toList) = true := by decide +kernel
  obtain ⟨reading, hreading, htail⟩ := (Option.any_eq_true _ _).1 hname
  have hmem := List.mem_of_getElem? hreading
  have htail := of_decide_eq_true htail
  obtain ⟨hagain, ⟨kept, hkept, htext, hsame⟩, ⟨-, -, hopeners⟩, -, hbalance⟩ :=
    neutralize_minimal fragment
  obtain ⟨-, -, hdepth, hopens⟩ := hopeners reading hmem _ htail
  rw [hresult] at hagain htext hsame hbalance
  have hcounted : Reading.balance (ScanState.start.readings fragment.toList) = 0 := by
    decide +kernel
  refine ⟨hresult, hagain, ?_, ⟨reading, hmem, htail, hdepth, hopens⟩, hcounted,
    hbalance.trans hcounted⟩
  cases kept with
  | same => exact absurd (hsame.1 rfl) (by decide +kernel)
  | rewritten text => rw [hkept, ← htext, Neutralized.text, ofList_toList]

end LogPattern.Bytewise
