import LogPattern.Proofs.Pattern.Readings

/-!
# A second scan

What the scan for groups gives is scanned again.  The second scan goes in step with the first
one: it reads a character that was kept as the first one did, and the opener that was written for
another one as three characters.  So it finds nothing to replace, and ends where the first one
ends.
-/

namespace LogPattern.ScanState

variable {state : ScanState} {c : Char} {rest tail : List Char}

/-! ## What the first scan keeps -/

theorem head?_scan (state : ScanState) (text : List Char) :
    (state.scan text).head? = text.head? := by
  cases text with
  | nil => rfl
  | cons c rest =>
      rw [scan_cons]
      cases htail : state.openerTail? c rest with
      | none => rfl
      | some tail =>
          obtain ⟨hgroup, -⟩ := openerTail?_eq_some htail
          rw [(opensGroup_iff.1 hgroup).1]
          rfl

theorem openerTail?_of_ne (state : ScanState) (hc : c ≠ '(') (rest : List Char) :
    state.openerTail? c rest = none := by
  have hgroup : state.opensGroup c ≠ true := fun h => hc (opensGroup_iff.1 h).1
  rw [openerTail?, if_neg hgroup]

theorem scan_cons_of_ne (state : ScanState) (hc : c ≠ '(') (rest : List Char) :
    state.scan (c :: rest) = c :: (state.next c rest).scan rest :=
  scan_cons_of_none (state.openerTail?_of_ne hc rest)

theorem mem_of_mem_scan {text : List Char} (hc : c ∉ ['(', '?', ':'])
    (h : c ∈ state.scan text) : c ∈ text := by
  rw [← flatMap_written_readings, List.mem_flatMap] at h
  obtain ⟨reading, hreading, hwritten⟩ := h
  rw [← flatMap_text_readings state text, List.mem_flatMap]
  refine ⟨reading, hreading, ?_⟩
  unfold Reading.written at hwritten
  split at hwritten
  · exact absurd hwritten hc
  · rw [List.mem_singleton.1 hwritten]
    exact List.mem_cons_self

theorem exists_of_scan_eq_cons {text after : List Char} (hc : c ≠ '(')
    (h : state.scan text = c :: after) :
    ∃ rest, text = c :: rest ∧ after = (state.next c rest).scan rest := by
  have hhead := head?_scan state text
  rw [h, List.head?_cons] at hhead
  obtain ⟨rest, rfl⟩ := List.head?_eq_some_iff.1 hhead.symm
  rw [scan_cons_of_ne state hc] at h
  exact ⟨rest, rfl, (List.cons.inj h).2.symm⟩

theorem openerKind_eq_plain_iff {text : List Char} :
    openerKind text = .plain ↔ ∃ more, text = '?' :: more ∧
      (∀ rest, more = 'P' :: '<' :: rest → '>' ∉ rest) ∧
      ∀ rest, more = '<' :: rest → rest.head? = some '=' ∨ rest.head? = some '!' ∨ '>' ∉ rest := by
  constructor
  · intro h
    unfold openerKind at h
    split at h <;> grind
  · rintro ⟨more, rfl, hnamed, hangle⟩
    by_cases hopen : ∃ rest, more = '<' :: rest
    · obtain ⟨rest, rfl⟩ := hopen
      rcases hangle rest rfl with hhead | hhead | hclosing
      · obtain ⟨_, rfl⟩ := List.head?_eq_some_iff.1 hhead
        rfl
      · obtain ⟨_, rfl⟩ := List.head?_eq_some_iff.1 hhead
        rfl
      · unfold openerKind
        split <;> grind
    · unfold openerKind
      split <;> grind

/-- The opener of a plain group is still one in the result. -/
theorem openerKind_scan {text : List Char} (h : openerKind text = .plain) (state : ScanState) :
    openerKind (state.scan text) = .plain := by
  obtain ⟨more, rfl, hnamed, hangle⟩ := openerKind_eq_plain_iff.1 h
  have hclosing {state : ScanState} {rest : List Char} (h : '>' ∉ rest) : '>' ∉ state.scan rest :=
    mt (mem_of_mem_scan (by decide)) h
  refine openerKind_eq_plain_iff.2 ⟨_, scan_cons_of_ne state (by decide) more, ?_, ?_⟩
  · intro after hscan
    obtain ⟨rest, rfl, hafter⟩ := exists_of_scan_eq_cons (by decide) hscan
    obtain ⟨rest, rfl, rfl⟩ := exists_of_scan_eq_cons (by decide) hafter.symm
    exact hclosing (hnamed rest rfl)
  · intro after hscan
    obtain ⟨rest, rfl, rfl⟩ := exists_of_scan_eq_cons (by decide) hscan
    rw [head?_scan]
    exact (hangle rest rfl).imp_right (Or.imp_right hclosing)

/-! ## States in step -/

/-- States between which the scan makes no difference: where a class starts matters inside one. -/
structure Agrees (state state' : ScanState) : Prop where
  escaped : state'.escaped = state.escaped
  classDepth : state'.classDepth = state.classDepth
  toClassStart : state.classDepth ≠ 0 → state'.toClassStart = state.toClassStart

namespace Agrees

variable {state state' : ScanState}

theorem refl (state : ScanState) : Agrees state state := ⟨rfl, rfl, fun _ => rfl⟩

theorem opensGroup (h : Agrees state state') (c : Char) :
    state'.opensGroup c = state.opensGroup c := by
  rw [ScanState.opensGroup, h.escaped, h.classDepth, ScanState.opensGroup]

theorem next (h : Agrees state state') (c : Char) {rest rest' : List Char}
    (hhead : rest'.head? = rest.head?) : Agrees (state.next c rest) (state'.next c rest') := by
  obtain ⟨_, _, ahead⟩ := state
  obtain ⟨escaped, depth, ahead'⟩ := state'
  obtain ⟨rfl, rfl, hahead⟩ := h
  dsimp only at hahead
  unfold ScanState.next
  dsimp only [atClassStart]
  split
  · exact ⟨rfl, rfl, fun hdepth => by rw [hahead hdepth]⟩
  split
  · exact ⟨rfl, rfl, fun hdepth => by rw [hahead hdepth]⟩
  split
  · exact ⟨rfl, rfl, fun _ => by rw [hhead]⟩
  by_cases hdepth : depth = 0
  · subst hdepth
    exact ⟨by simp, by simp, by simp⟩
  · rw [hahead hdepth]
    exact refl _

end Agrees

def Outside (state : ScanState) : Prop := state.escaped = false ∧ state.classDepth = 0

theorem Outside.agrees {state' : ScanState} (h : state.Outside) (h' : state'.Outside) :
    Agrees state state' :=
  ⟨h'.1.trans h.1.symm, h'.2.trans h.2.symm, fun hdepth => absurd h.2 hdepth⟩

theorem Outside.next (h : state.Outside) (hslash : c ≠ '\\') (hopen : c ≠ '[') (rest : List Char) :
    (state.next c rest).Outside := by
  obtain ⟨hescaped, hdepth⟩ := h
  unfold ScanState.next
  rw [if_neg (by simp [hescaped]), if_neg hslash, if_neg hopen, if_neg (by simp [hdepth])]
  exact ⟨hescaped, hdepth⟩

/-! ## In step -/

theorem openerTail?_scan {state' : ScanState} (h : Agrees state state')
    (hnone : state.openerTail? c rest = none) (inner : ScanState) :
    state'.openerTail? c (inner.scan rest) = none := by
  unfold openerTail?
  split
  · next hgroup =>
      rw [h.opensGroup] at hgroup
      rw [captureTail?, openerKind_scan (openerTail?_eq_none hnone hgroup)]
  · rfl

/-- What a second scan reads in the result of the first. -/
structure Rescanned (state state' : ScanState) (text : List Char) : Prop where
  unchanged : ∀ reading ∈ state'.readings (state.scan text), reading.tail? = none
  behind : Agrees (state.behind (state.readings text))
    (state'.behind (state'.readings (state.scan text)))
  balance : Reading.balance (state'.readings (state.scan text)) =
    Reading.balance (state.readings text)

theorem rescanned_nil {state' : ScanState} (h : Agrees state state') :
    Rescanned state state' [] := by
  constructor <;> simp [h]

theorem rescanned_of_none {state' : ScanState} (h : Agrees state state')
    (hnone : state.openerTail? c rest = none)
    (hrest : Rescanned (state.next c rest)
      (state'.next c ((state.next c rest).scan rest)) rest) :
    Rescanned state state' (c :: rest) := by
  have hreadings := readings_cons_of_none hnone
  have hreadings' := readings_cons_of_none (openerTail?_scan h hnone (state.next c rest))
  rw [← scan_cons_of_none hnone] at hreadings'
  constructor
  · rw [hreadings']
    exact List.forall_mem_cons.2 ⟨rfl, hrest.unchanged⟩
  · rw [hreadings, hreadings']
    exact hrest.behind
  · rw [hreadings, hreadings', Reading.balance_cons, Reading.balance_cons, hrest.balance]
    simp only [Reading.level, h.escaped, h.classDepth]

theorem readings_plainOpener (h : state.Outside) (rest : List Char) :
    ∃ second third last : ScanState, second.Outside ∧ third.Outside ∧ last.Outside ∧
      state.readings ('(' :: '?' :: ':' :: rest) =
        ⟨state, '(', none, second⟩ :: ⟨second, '?', none, third⟩ :: ⟨third, ':', none, last⟩ ::
          last.readings rest := by
  have hplain : state.openerTail? '(' ('?' :: ':' :: rest) = none := by
    unfold openerTail?
    split <;> rfl
  have hsecond := h.next (c := '(') (by decide) (by decide) ('?' :: ':' :: rest)
  have hthird := hsecond.next (c := '?') (by decide) (by decide) (':' :: rest)
  refine ⟨_, _, _, hsecond, hthird, hthird.next (c := ':') (by decide) (by decide) rest, ?_⟩
  rw [readings_cons_of_none hplain,
    readings_cons_of_none (openerTail?_of_ne _ (by decide) _),
    readings_cons_of_none (openerTail?_of_ne _ (by decide) _)]

/-- The opener that is written for another one is read as three characters. -/
theorem rescanned_of_some {state' : ScanState} (h : Agrees state state')
    (hsome : state.openerTail? c rest = some tail)
    (hrest : ∀ inner : ScanState, Agrees (state.next c rest) inner →
      Rescanned (state.next c rest) inner (rest.drop tail.length)) :
    Rescanned state state' (c :: rest) := by
  obtain ⟨hgroup, -⟩ := openerTail?_eq_some hsome
  obtain ⟨rfl, hescaped, hdepth⟩ := opensGroup_iff.1 hgroup
  have houtside : state.Outside := ⟨hescaped, hdepth⟩
  have houtside' : state'.Outside := ⟨h.escaped.trans hescaped, h.classDepth.trans hdepth⟩
  have hreadings := readings_cons state '(' rest
  rw [hsome] at hreadings
  obtain ⟨second, third, last, hsecond, hthird, hlast, hreadings'⟩ :=
    readings_plainOpener houtside' ((state.next '(' rest).scan (rest.drop tail.length))
  have hscan : state.scan ('(' :: rest) =
      '(' :: '?' :: ':' :: (state.next '(' rest).scan (rest.drop tail.length) := by
    rw [scan_cons, hsome]
    rfl
  have hinner := hrest last ((houtside.next (by decide) (by decide) rest).agrees hlast)
  rw [← hscan] at hreadings'
  constructor
  · rw [hreadings']
    simpa only [List.forall_mem_cons, true_and] using hinner.unchanged
  · rw [hreadings, hreadings']
    exact hinner.behind
  · obtain ⟨hescaped', hdepth'⟩ := houtside'
    rw [hreadings, hreadings']
    simp [Reading.level, hescaped, hdepth, hescaped', hdepth', hinner.balance]

/-- The second scan goes in step with the first one. -/
theorem rescanned {state' : ScanState} (h : Agrees state state') (text : List Char) :
    Rescanned state state' text := by
  induction state, text using readings.induct generalizing state' with
  | case1 state => exact rescanned_nil h
  | case2 state c rest ih =>
      cases htail : state.openerTail? c rest with
      | none =>
          rw [htail] at ih
          exact rescanned_of_none h htail (ih (h.next c (head?_scan _ rest)))
      | some tail =>
          rw [htail] at ih
          exact rescanned_of_some h htail fun inner hinner => ih hinner

/-- A second scan changes nothing. -/
theorem scan_scan (state : ScanState) (text : List Char) :
    state.scan (state.scan text) = state.scan text :=
  scan_eq_self_iff.2 (rescanned (.refl state) text).unchanged

end LogPattern.ScanState
