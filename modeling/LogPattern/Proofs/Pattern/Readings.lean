import LogPattern.Proofs.Pattern.GroupScan
import Mathlib.Data.List.Basic

/-!
# What the scan for groups reads

The scan goes through a fragment reading by reading.  It looks at a character, and where that
begins the opener of a capturing group, the rest of the opener is passed over.  In the result
every such opener is that of a plain group, and all else is as it was.
-/

namespace LogPattern

/-- A step of the scan through a fragment. -/
structure Reading where
  before : ScanState
  /-- The character that is looked at. -/
  char : Char
  /-- What is passed over behind it, if it begins the opener of a capturing group. -/
  tail? : Option (List Char)
  after : ScanState
deriving DecidableEq, Repr

namespace Reading

def text (reading : Reading) : List Char := reading.char :: reading.tail?.getD []

def written (reading : Reading) : List Char :=
  if reading.tail?.isSome then ['(', '?', ':'] else [reading.char]

/-- The parenthesis that is read, if it is neither escaped nor in a class: one opens, one closes. -/
def level (reading : Reading) : Int :=
  if reading.before.escaped || reading.before.classDepth != 0 then 0
  else if reading.char = '(' then 1
  else if reading.char = ')' then -1
  else 0

/--
How many more parentheses are opened than closed.  A name belongs to its opener, so the
parentheses in it are not read.
-/
def balance : List Reading → Int
  | [] => 0
  | reading :: readings => reading.level + balance readings

@[simp]
theorem balance_nil : balance [] = 0 := rfl

@[simp]
theorem balance_cons (reading : Reading) (readings : List Reading) :
    balance (reading :: readings) = reading.level + balance readings := rfl

end Reading

/--
The opener of a capturing group: bare, or with a name in angle brackets.  Behind `(?<` an equals
sign or an exclamation mark begins no name.
-/
inductive OpensCapture : List Char → Prop
  | bare : OpensCapture ['(']
  | named {name : List Char} (hname : '>' ∉ name) :
      OpensCapture (['(', '?', 'P', '<'] ++ name ++ ['>'])
  | angle {name : List Char} (hname : '>' ∉ name) (hequals : name.head? ≠ some '=')
      (hbang : name.head? ≠ some '!') : OpensCapture (['(', '?', '<'] ++ name ++ ['>'])

def captureTail? (rest : List Char) : Option (List Char) :=
  match openerKind rest with
  | .bare => some []
  | .named => some (rest.takeWhile (· != '>') ++ ['>'])
  | .plain => none

namespace ScanState

def openerTail? (state : ScanState) (c : Char) (rest : List Char) : Option (List Char) :=
  if state.opensGroup c then captureTail? rest else none

def readings (state : ScanState) : List Char → List Reading
  | [] => []
  | c :: rest =>
      ⟨state, c, state.openerTail? c rest, state.next c rest⟩ ::
        (state.next c rest).readings (rest.drop ((state.openerTail? c rest).getD []).length)
termination_by text => text.length
decreasing_by
  rw [List.length_drop, List.length_cons]
  omega

def behind (state : ScanState) (readings : List Reading) : ScanState :=
  readings.foldl (fun _ reading => reading.after) state

@[simp]
theorem behind_nil (state : ScanState) : state.behind [] = state := rfl

@[simp]
theorem behind_cons (state : ScanState) (reading : Reading) (readings : List Reading) :
    state.behind (reading :: readings) = reading.after.behind readings := rfl

end ScanState

/-! ## One step -/

theorem exists_name_of_openerKind {rest : List Char} (h : openerKind rest = .named) :
    ∃ front name back, rest = front ++ name ++ '>' :: back ∧ '>' ∉ front ++ name ∧
      OpensCapture ('(' :: (front ++ name ++ ['>'])) := by
  have divided {text : List Char} (hmem : text.contains '>' = true) :
      ∃ name back, '>' ∉ name ∧ text = name ++ '>' :: back := by
    obtain ⟨name, back, htext, hname⟩ :=
      List.eq_append_cons_of_mem (List.contains_iff_mem.1 hmem)
    exact ⟨name, back, hname, htext⟩
  unfold openerKind at h
  split at h
  · split at h
    · next hmem =>
        obtain ⟨name, back, hname, rfl⟩ := divided hmem
        exact ⟨['?', 'P', '<'], name, back, rfl, by simpa using hname, .named hname⟩
    · cases h
  · cases h
  · cases h
  · next hequals hbang =>
      split at h
      · next hmem =>
          obtain ⟨name, back, hname, rfl⟩ := divided hmem
          have hhead {c : Char} (hc : ∀ tail, name ++ '>' :: back = c :: tail → False) :
              name.head? ≠ some c := by
            intro hhead
            obtain ⟨more, rfl⟩ := List.head?_eq_some_iff.1 hhead
            exact hc _ rfl
          exact ⟨['?', '<'], name, back, rfl, by simpa using hname,
            .angle hname (hhead hequals) (hhead hbang)⟩
      · cases h
  · cases h
  · cases h

theorem captureTail?_eq_some {rest tail : List Char} (h : captureTail? rest = some tail) :
    OpensCapture ('(' :: tail) ∧ ∃ back, rest = tail ++ back ∧
      (openerKind rest = .bare ∧ tail = [] ∨
        openerKind rest = .named ∧ ∃ inner, tail = inner ++ ['>'] ∧ '>' ∉ inner) := by
  unfold captureTail? at h
  split at h
  · next hbare =>
      cases h
      exact ⟨.bare, rest, rfl, .inl ⟨hbare, rfl⟩⟩
  · next hnamed =>
      cases h
      obtain ⟨front, name, back, rfl, hinner, hopens⟩ := exists_name_of_openerKind hnamed
      have htake : (front ++ name ++ '>' :: back).takeWhile (· != '>') = front ++ name := by
        rw [List.takeWhile_append_of_pos fun c hc =>
          bne_iff_ne.2 (ne_of_mem_of_not_mem hc hinner)]
        simp
      rw [htake]
      exact ⟨hopens, back, by simp, .inr ⟨hnamed, _, rfl, hinner⟩⟩
  · cases h

theorem captureTail?_eq_none {rest : List Char} (h : captureTail? rest = none) :
    openerKind rest = .plain := by
  unfold captureTail? at h
  split at h
  · cases h
  · cases h
  · assumption

namespace ScanState

variable {state : ScanState} {c : Char} {rest tail : List Char}

theorem opensGroup_iff :
    state.opensGroup c = true ↔ c = '(' ∧ state.escaped = false ∧ state.classDepth = 0 := by
  simp [opensGroup, and_assoc]

theorem openerTail?_eq_some (h : state.openerTail? c rest = some tail) :
    state.opensGroup c = true ∧ OpensCapture ('(' :: tail) ∧ ∃ back, rest = tail ++ back ∧
      (openerKind rest = .bare ∧ tail = [] ∨
        openerKind rest = .named ∧ ∃ inner, tail = inner ++ ['>'] ∧ '>' ∉ inner) := by
  unfold openerTail? at h
  split at h
  · next hgroup => exact ⟨hgroup, captureTail?_eq_some h⟩
  · cases h

theorem openerTail?_eq_none (h : state.openerTail? c rest = none)
    (hgroup : state.opensGroup c = true) : openerKind rest = .plain := by
  rw [openerTail?, if_pos hgroup] at h
  exact captureTail?_eq_none h

@[simp]
theorem scan_nil (state : ScanState) : state.scan [] = [] := rfl

@[simp]
theorem readings_nil (state : ScanState) : state.readings [] = [] := by rw [readings]

theorem scan_cons (state : ScanState) (c : Char) (rest : List Char) :
    state.scan (c :: rest) =
      (if (state.openerTail? c rest).isSome then ['(', '?', ':'] else [c]) ++
        (state.next c rest).scan (rest.drop ((state.openerTail? c rest).getD []).length) := by
  cases htail : state.openerTail? c rest with
  | none =>
      rw [scan, neutralizeFrom, if_neg (by decide)]
      split
      · next hgroup =>
          rw [openerTail?_eq_none htail hgroup]
          exact neutralizeFrom_eq _ _ _ _
      · exact neutralizeFrom_eq _ _ _ _
  | some tail =>
      obtain ⟨hgroup, -, back, rfl, hkind⟩ := openerTail?_eq_some htail
      rw [scan, neutralizeFrom, if_neg (by decide), if_pos hgroup]
      rcases hkind with ⟨hbare, rfl⟩ | ⟨hnamed, inner, rfl, hinner⟩
      · rw [hbare]
        exact neutralizeFrom_eq _ _ _ _
      · rw [hnamed]
        dsimp only
        rw [List.append_assoc, List.singleton_append, neutralizeFrom_name hinner, neutralizeFrom_eq]
        simp [scan, plainOpenerReversed]

theorem scan_cons_of_none (h : state.openerTail? c rest = none) :
    state.scan (c :: rest) = c :: (state.next c rest).scan rest := by
  rw [scan_cons, h]
  rfl

theorem readings_cons (state : ScanState) (c : Char) (rest : List Char) :
    state.readings (c :: rest) =
      ⟨state, c, state.openerTail? c rest, state.next c rest⟩ ::
        (state.next c rest).readings (rest.drop ((state.openerTail? c rest).getD []).length) := by
  rw [readings]

theorem readings_cons_of_none (h : state.openerTail? c rest = none) :
    state.readings (c :: rest) =
      ⟨state, c, none, state.next c rest⟩ :: (state.next c rest).readings rest := by
  rw [readings_cons, h]
  rfl

/-- The readings are the fragment, divided. -/
theorem flatMap_text_readings (state : ScanState) (text : List Char) :
    (state.readings text).flatMap Reading.text = text := by
  fun_induction readings state text with
  | case1 => rfl
  | case2 state c rest ih =>
      rw [List.flatMap_cons, ih, Reading.text, List.cons_append]
      cases htail : state.openerTail? c rest with
      | none => rfl
      | some tail =>
          obtain ⟨-, -, back, rfl, -⟩ := openerTail?_eq_some htail
          simp

/-- The result of the scan is what is written for the readings. -/
theorem flatMap_written_readings (state : ScanState) (text : List Char) :
    (state.readings text).flatMap Reading.written = state.scan text := by
  fun_induction readings state text with
  | case1 => rfl
  | case2 state c rest ih =>
      rw [List.flatMap_cons, ih, scan_cons]
      rfl

/-- Only openers of capturing groups are replaced, outside classes and not escaped. -/
theorem opener_of_mem_readings {text : List Char} {reading : Reading}
    (h : reading ∈ state.readings text) (htail : reading.tail? = some tail) :
    reading.char = '(' ∧ reading.before.escaped = false ∧ reading.before.classDepth = 0 ∧
      OpensCapture ('(' :: tail) := by
  fun_induction readings state text with
  | case1 => cases h
  | case2 state c rest ih =>
      rcases List.mem_cons.1 h with rfl | h
      · obtain ⟨hgroup, hopener, -⟩ := openerTail?_eq_some htail
        obtain ⟨hc, hescaped, hdepth⟩ := opensGroup_iff.1 hgroup
        exact ⟨hc, hescaped, hdepth, hopener⟩
      · exact ih h

/-- A text stays as it is if no reading of it is the opener of a capturing group. -/
theorem scan_eq_self_iff {text : List Char} :
    state.scan text = text ↔ ∀ reading ∈ state.readings text, reading.tail? = none := by
  constructor
  · intro h
    fun_induction readings state text with
    | case1 => simp
    | case2 state c rest ih =>
        cases htail : state.openerTail? c rest with
        | none =>
            rw [scan_cons_of_none htail, List.cons.injEq] at h
            rw [htail] at ih
            exact List.forall_mem_cons.2 ⟨rfl, ih h.2⟩
        | some tail =>
            -- a plain group would be opened here
            obtain ⟨-, -, -, -, hkind⟩ := openerTail?_eq_some htail
            rw [scan_cons, htail] at h
            have hplain : openerKind rest = .plain := by
              rw [← (List.cons.inj h).2]
              rfl
            rw [hplain] at hkind
            simp at hkind
  · intro h
    calc state.scan text
        = (state.readings text).flatMap Reading.written := (flatMap_written_readings _ _).symm
      _ = (state.readings text).flatMap Reading.text := by
          refine List.flatMap_congr fun reading hreading => ?_
          rw [Reading.written, Reading.text, h reading hreading]
          rfl
      _ = text := flatMap_text_readings _ _

theorem scan_of_notMem {text : List Char} (h : '(' ∉ text) : state.scan text = text := by
  refine scan_eq_self_iff.2 fun reading hreading => Option.eq_none_iff_forall_ne_some.2 ?_
  intro tail htail
  refine h ?_
  rw [← flatMap_text_readings state text, List.mem_flatMap]
  refine ⟨reading, hreading, ?_⟩
  rw [← (opener_of_mem_readings hreading htail).1]
  exact List.mem_cons_self

end ScanState

end LogPattern
