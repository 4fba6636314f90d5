import LogPattern.Validation.Workers
import Mathlib.Algebra.Order.Floor.Div

/-!
# Dealing out lines and collecting their results

Lines are known by their numbers: every line lies in one chunk, and every result has
one slot.  What the slots hold depends only on which lines have been processed, not
on the order in which their results came in.
-/

namespace LogPattern

/-! ## Numbered lines -/

namespace LogLine

theorem getElem?_numbered (texts : List String) (k : Nat) :
    (numbered texts)[k]? = texts[k]?.map fun text => ⟨k + 1, text⟩ := by
  simp [numbered, List.getElem?_zipIdx, Nat.add_comm, Function.comp_def]

@[simp] theorem length_numbered (texts : List String) :
    (numbered texts).length = texts.length := by
  simp [numbered]

theorem number_of_getElem? {texts : List String} {k : Nat} {line : LogLine}
    (h : (numbered texts)[k]? = some line) : line.number = k + 1 := by
  rw [getElem?_numbered, Option.map_eq_some_iff] at h
  obtain ⟨text, -, rfl⟩ := h
  rfl

@[simp] theorem line_process (matcher : Matcher) (line : LogLine) :
    (line.process matcher).line = line := rfl

end LogLine

/-! ## Matching in order -/

theorem matchInOrderFrom_eq (matcher : Matcher) (stops : LogLine → Bool)
    (done : List LineResult) (lines : List LogLine) :
    matchInOrderFrom matcher stops done lines =
      if lines.any stops then none
      else some (done.reverse ++ lines.map (LogLine.process matcher)) := by
  induction lines generalizing done with
  | nil => simp [matchInOrderFrom]
  | cons line rest ih =>
      rw [matchInOrderFrom]
      by_cases hstops : stops line = true
      · simp [hstops]
      · simp [hstops, ih]

theorem matchInOrder_eq (matcher : Matcher) (stops : LogLine → Bool) (lines : List LogLine) :
    matchInOrder matcher stops lines =
      if lines.any stops then none else some (lines.map (LogLine.process matcher)) := by
  rw [matchInOrder, matchInOrderFrom_eq]
  rfl

/-! ## Chunks -/

theorem chunkSize_pos (total workers : Nat) : 0 < chunkSize total workers := by
  unfold chunkSize
  omega

theorem chunkSize_eq_ceilDiv {total workers : Nat} (htotal : 0 < total) (hworkers : 0 < workers) :
    chunkSize total workers = total ⌈/⌉ workers := by
  have hpos : 0 < (total + workers - 1) / workers := Nat.div_pos (by omega) hworkers
  rw [chunkSize, Nat.ceilDiv_eq_add_pred_div]
  omega

theorem flatten_chunksFrom (size : Nat) (lines : List LogLine) :
    (chunksFrom size lines).flatten = lines := by
  fun_induction chunksFrom size lines with
  | case1 => rfl
  | case2 line rest ih => simp [ih]

@[simp] theorem flatten_chunks (lines : List LogLine) (workers : Nat) :
    (chunks lines workers).flatten = lines :=
  flatten_chunksFrom _ lines

theorem getElem?_chunksFrom (size i : Nat) (lines : List LogLine) :
    (chunksFrom size lines)[i]? =
      if i * (size + 1) < lines.length then some ((lines.drop (i * (size + 1))).take (size + 1))
      else none := by
  fun_induction chunksFrom size lines generalizing i with
  | case1 => simp
  | case2 line rest ih =>
      cases i with
      | zero => simp
      | succ i =>
          have hplace : (i + 1) * (size + 1) = i * (size + 1) + size + 1 := by
            rw [Nat.succ_mul]
            rfl
          have hshort : i * (size + 1) < rest.length - size ↔
              i * (size + 1) + size + 1 < rest.length + 1 := by omega
          simp only [List.getElem?_cons_succ, ih, hplace, List.length_drop, List.length_cons,
            hshort, List.drop_succ_cons, List.drop_drop, Nat.add_comm size (i * (size + 1))]

theorem getElem?_chunks (lines : List LogLine) (workers i : Nat) :
    (chunks lines workers)[i]? =
      if i * chunkSize lines.length workers < lines.length then
        some ((lines.drop (i * chunkSize lines.length workers)).take
          (chunkSize lines.length workers))
      else none := by
  have hsize : chunkSize lines.length workers - 1 + 1 = chunkSize lines.length workers :=
    Nat.succ_pred_eq_of_pos (chunkSize_pos _ _)
  rw [chunks, getElem?_chunksFrom, hsize]

theorem mem_chunk_iff {texts : List String} {workers i k : Nat} {chunk : List LogLine}
    {line : LogLine} (hchunk : (chunks (LogLine.numbered texts) workers)[i]? = some chunk)
    (hline : (LogLine.numbered texts)[k]? = some line) :
    line ∈ chunk ↔ k / chunkSize texts.length workers = i := by
  have hpos := chunkSize_pos texts.length workers
  have hnumber := LogLine.number_of_getElem? hline
  rw [getElem?_chunks, LogLine.length_numbered] at hchunk
  generalize chunkSize texts.length workers = size at *
  split at hchunk
  · cases hchunk
    rw [List.mem_iff_getElem?]
    constructor
    · rintro ⟨j, hj⟩
      rw [List.getElem?_take] at hj
      split at hj
      · rw [List.getElem?_drop] at hj
        have hsame := LogLine.number_of_getElem? hj
        obtain rfl : k = i * size + j := by omega
        exact Nat.div_eq_of_lt_le (by omega) (by rw [Nat.succ_mul]; omega)
      · cases hj
    · rintro rfl
      have hsplit := Nat.div_add_mod' k size
      refine ⟨k % size, ?_⟩
      rw [List.getElem?_take_of_lt (Nat.mod_lt k hpos), List.getElem?_drop, hsplit, hline]
  · cases hchunk

theorem exists_chunk {texts : List String} {k : Nat} {line : LogLine} (workers : Nat)
    (hline : (LogLine.numbered texts)[k]? = some line) :
    ∃ chunk, (chunks (LogLine.numbered texts) workers)[k / chunkSize texts.length workers]? =
      some chunk := by
  obtain ⟨hlt, -⟩ := List.getElem?_eq_some_iff.1 hline
  have hle := Nat.div_mul_le_self k (chunkSize texts.length workers)
  rw [getElem?_chunks, if_pos (by rw [LogLine.length_numbered] at *; omega)]
  exact ⟨_, rfl⟩

/-! ## Slots -/

namespace ResultSlots

/-- The slots hold the results of the lines that have been processed, each in its place. -/
def Holds (slots : ResultSlots) (matcher : Matcher) (lines processed : List LogLine) : Prop :=
  ∀ k : Nat, slots[k]? = lines[k]?.map fun line =>
    if line ∈ processed then some (line.process matcher) else none

variable {slots : ResultSlots} {matcher : Matcher} {lines processed : List LogLine}

theorem holds_replicate (matcher : Matcher) (lines : List LogLine) :
    Holds (Array.replicate lines.length none) matcher lines [] := by
  intro k
  by_cases hlt : k < lines.length
  · simp [hlt]
  · simp [hlt]

theorem Holds.congr {others : List LogLine} (h : slots.Holds matcher lines processed)
    (hsame : ∀ line ∈ lines, line ∈ processed ↔ line ∈ others) :
    slots.Holds matcher lines others := by
  intro k
  rw [h k]
  cases hline : lines[k]? with
  | none => rfl
  | some line => simp [hsame line (List.mem_of_getElem? hline)]

theorem Holds.put {texts : List String} {line : LogLine}
    (h : slots.Holds matcher (LogLine.numbered texts) processed)
    (hline : line ∈ LogLine.numbered texts) :
    (slots.put (line.process matcher)).Holds matcher (LogLine.numbered texts)
      (line :: processed) := by
  obtain ⟨i, hi⟩ := List.mem_iff_getElem?.1 hline
  have hnumber := LogLine.number_of_getElem? hi
  intro k
  rw [ResultSlots.put, LogLine.line_process, hnumber, Nat.add_sub_cancel,
    Array.getElem?_setIfInBounds]
  by_cases hk : i = k
  · subst hk
    have hsize : i < slots.size := by
      have hslot := h i
      rw [hi, Option.map_some] at hslot
      exact (Array.getElem?_eq_some_iff.1 hslot).1
    simp [hi, hsize]
  · rw [if_neg hk, h k]
    cases hother : (LogLine.numbered texts)[k]? with
    | none => rfl
    | some other =>
        have hne : other ≠ line := by
          rintro rfl
          have hsame := LogLine.number_of_getElem? hother
          omega
        simp [hne]

theorem Holds.join_finished {texts : List String} {done : List LogLine}
    (h : slots.Holds matcher (LogLine.numbered texts) processed)
    (hdone : ∀ line ∈ done, line ∈ LogLine.numbered texts) :
    (slots.join (.finished (done.map (LogLine.process matcher)))).Holds matcher
      (LogLine.numbered texts) (processed ++ done) := by
  rw [ResultSlots.join, WorkerReport.results]
  induction done generalizing slots processed with
  | nil => simpa using h
  | cons line done ih =>
      have hput := h.put (hdone line List.mem_cons_self)
      refine (ih hput fun other hother => hdone other (List.mem_cons_of_mem _ hother)).congr ?_
      intro other _
      simp only [List.mem_append, List.mem_cons]
      tauto

theorem join_died (slots : ResultSlots) : slots.join .died = slots := rfl

/-- A line that no slot has the result of is one that a worker failed to process. -/
theorem Holds.fill (h : slots.Holds matcher lines processed) :
    slots.fill lines = lines.map fun line =>
      if line ∈ processed then line.process matcher else ⟨line, .failed .worker⟩ := by
  apply List.ext_getElem?
  intro k
  have hslot := h k
  rw [← Array.getElem?_toList] at hslot
  rw [ResultSlots.fill, List.getElem?_map, List.zip, List.getElem?_zipWith, hslot,
    List.getElem?_map]
  cases lines[k]? with
  | none => rfl
  | some line =>
      by_cases hmem : line ∈ processed
      · simp [hmem]
      · simp [hmem]

end ResultSlots

/-! ## Workers that finish in the order of their chunks -/

def survivingLines (kills : LogLine → Bool) (parts : List (List LogLine)) : List LogLine :=
  (parts.filter fun chunk => !chunk.any kills).flatten

theorem ResultSlots.Holds.joinAll {slots : ResultSlots} {matcher : Matcher} {texts : List String}
    {processed : List LogLine} {kills : LogLine → Bool} {parts : List (List LogLine)}
    (h : slots.Holds matcher (LogLine.numbered texts) processed)
    (hparts : ∀ line ∈ parts.flatten, line ∈ LogLine.numbered texts) :
    ((parts.map (WorkerReport.ofChunk matcher kills)).foldl ResultSlots.join slots).Holds matcher
      (LogLine.numbered texts) (processed ++ survivingLines kills parts) := by
  induction parts generalizing slots processed with
  | nil => simpa [survivingLines] using h
  | cons chunk parts ih =>
      rw [List.flatten_cons] at hparts
      have hrest : ∀ line ∈ parts.flatten, line ∈ LogLine.numbered texts :=
        fun line hline => hparts line (List.mem_append_right _ hline)
      rw [List.map_cons, List.foldl_cons, WorkerReport.ofChunk]
      by_cases hkills : chunk.any kills = true
      · rw [if_pos hkills, ResultSlots.join_died]
        simpa [survivingLines, hkills] using ih h hrest
      · have hjoined := h.join_finished fun line hline => hparts line (List.mem_append_left _ hline)
        rw [if_neg hkills]
        simpa [survivingLines, hkills] using ih hjoined hrest

theorem collectReports_ofChunk (matcher : Matcher) (kills : LogLine → Bool) (texts : List String)
    (workers : Nat) :
    collectReports (LogLine.numbered texts)
        ((chunks (LogLine.numbered texts) workers).map (WorkerReport.ofChunk matcher kills)) =
      (LogLine.numbered texts).map fun line =>
        if line ∈ survivingLines kills (chunks (LogLine.numbered texts) workers) then
          line.process matcher
        else ⟨line, .failed .worker⟩ := by
  have hparts : ∀ line ∈ (chunks (LogLine.numbered texts) workers).flatten,
      line ∈ LogLine.numbered texts := by simp
  exact ((ResultSlots.holds_replicate matcher _).joinAll hparts).fill

/-- Workers that nothing befalls process every line. -/
theorem results_matchWithWorkers_none (matcher : Matcher) (texts : List String) (workers : Nat) :
    (matchWithWorkers matcher .none workers (LogLine.numbered texts)).results? =
      some ((LogLine.numbered texts).map (LogLine.process matcher)) := by
  have hall : survivingLines (fun _ => false) (chunks (LogLine.numbered texts) workers) =
      LogLine.numbered texts := by
    rw [survivingLines, List.filter_eq_self.2, flatten_chunks]
    intro chunk _
    simp
  have hcollect := collectReports_ofChunk matcher (fun _ => false) texts workers
  rw [hall] at hcollect
  simp only [matchWithWorkers, Mishaps.none, Cancellation.strikes, Bool.false_eq_true,
    if_false, reduceCtorEq, hcollect, Option.some.injEq]
  exact List.map_congr_left fun line hline => if_pos hline

end LogPattern
