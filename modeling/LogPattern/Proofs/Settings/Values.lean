import LogPattern.Proofs.Text.Split
import LogPattern.Settings.Environment

/-!
# Values in variables

What a text must be like to give a size or a list.  The readers of variables take exactly
such texts.
-/

namespace LogPattern

/-! ## Sizes -/

/-- The number that decimal digits stand for, the most significant one first. -/
def decimalValue (digits : List Char) : Nat :=
  digits.foldl (fun value c => 10 * value + (c.toNat - '0'.toNat)) 0

/-- A text of decimal digits, after a plus sign if one likes, gives a size. -/
def SpellsSize (text : String) (size : Nat) : Prop :=
  ∃ digits, (text.toList = digits ∨ text.toList = '+' :: digits) ∧ digits ≠ [] ∧
    (∀ c ∈ digits, isDecimalDigit c = true) ∧ size = decimalValue digits ∧ size ≤ maxSize

theorem digitValue?_ten (c : Char) :
    digitValue? 10 c = if isDecimalDigit c then some (c.toNat - '0'.toNat) else none := by
  unfold digitValue? hexValue? isDecimalDigit
  split
  · next hdecimal =>
      have hle : c.toNat ≤ '9'.toNat := by
        have hnine := (Bool.and_eq_true_iff.1 hdecimal).2
        exact of_decide_eq_true hnine
      have hlt : c.toNat - '0'.toNat < 10 := by
        have hzero : '0'.toNat = 48 := rfl
        have hnine : '9'.toNat = 57 := rfl
        omega
      simpa using hlt
  · -- a hexadecimal digit is no decimal one
    split
    · simp
    · split
      · simp
      · rfl

theorem digitsValueFrom?_ten (value : Nat) (digits : List Char) :
    digitsValueFrom? 10 value digits =
      if digits.all isDecimalDigit then
        some (digits.foldl (fun value c => 10 * value + (c.toNat - '0'.toNat)) value)
      else none := by
  induction digits generalizing value with
  | nil => simp [digitsValueFrom?]
  | cons c rest ih =>
      rw [digitsValueFrom?, digitValue?_ten]
      by_cases hc : isDecimalDigit c = true
      · simp only [hc, if_true, ih, List.all_cons, Bool.true_and, List.foldl_cons]
      · simp [hc]

theorem digitsValue?_eq_some_iff {digits : List Char} {size : Nat} :
    digitsValue? 10 digits = some size ↔
      digits ≠ [] ∧ (∀ c ∈ digits, isDecimalDigit c = true) ∧ size = decimalValue digits := by
  rw [digitsValue?, digitsValueFrom?_ten, ← List.all_eq_true]
  cases digits with
  | nil => simp
  | cons c rest =>
      have hne : (c :: rest).isEmpty = false := rfl
      rw [hne, if_neg Bool.false_ne_true, Option.ite_none_right_eq_some, Option.some.injEq]
      constructor
      · rintro ⟨hdigits, rfl⟩
        exact ⟨List.cons_ne_nil _ _, hdigits, rfl⟩
      · rintro ⟨-, hdigits, rfl⟩
        exact ⟨hdigits, rfl⟩

theorem readSize?_eq_some_iff {text : String} {size : Nat} :
    readSize? text = some size ↔ SpellsSize text size := by
  have hread (digits : List Char) :
      (digitsValue? 10 digits).filter (· ≤ maxSize) = some size ↔
        digits ≠ [] ∧ (∀ c ∈ digits, isDecimalDigit c = true) ∧ size = decimalValue digits ∧
          size ≤ maxSize := by
    rw [Option.filter_eq_some_iff, digitsValue?_eq_some_iff, decide_eq_true_eq, and_assoc,
      and_assoc]
  unfold readSize? SpellsSize
  dsimp only
  split
  · next rest htext =>
      rw [hread]
      constructor
      · exact fun h => ⟨rest, .inr htext, h⟩
      · rintro ⟨digits, hall | hrest, h⟩
        · -- a plus sign is no digit
          have hplus := h.2.1 '+' (by rw [← hall, htext]; exact List.mem_cons_self)
          cases hplus
        · obtain rfl : rest = digits := by simpa [htext] using hrest
          exact h
  · next hplain =>
      rw [hread]
      constructor
      · exact fun h => ⟨text.toList, .inl rfl, h⟩
      · rintro ⟨digits, rfl | hrest, h⟩
        · exact h
        · exact absurd hrest (hplain digits)

/-! ## Lists -/

theorem splitOn_comma (text : String) :
    text.splitOn "," = (text.toList.splitOn ',').map String.ofList :=
  splitOn_singleton text ','

theorem notMem_of_mem_splitOn {α : Type} [BEq α] [LawfulBEq α] {mark : α} {whole : List α} :
    ∀ part ∈ whole.splitOn mark, mark ∉ part := by
  induction whole with
  | nil => simp
  | cons a whole ih =>
      rw [List.splitOn_cons_eq_if_modifyHead]
      split
      · exact List.forall_mem_cons.2 ⟨List.not_mem_nil, ih⟩
      · next hne =>
          cases hparts : whole.splitOn mark with
          | nil => simp
          | cons part parts =>
              rw [hparts, List.forall_mem_cons] at ih
              rw [List.modifyHead_cons, List.forall_mem_cons]
              refine ⟨fun hmem => ?_, ih.2⟩
              rcases List.mem_cons.1 hmem with rfl | hmem
              · simp at hne
              · exact ih.1 hmem

/-- A text gives the items between its commas, trimmed, but for those that have nothing in them. -/
def SpellsList (text : String) (items : List String) : Prop :=
  ∃ parts : List (List Char), parts ≠ [] ∧ [','].intercalate parts = text.toList ∧
    (∀ part ∈ parts, ',' ∉ part) ∧ items = ((parts.map trim).filter (· ≠ [])).map String.ofList

theorem commaList_eq (text : String) : Environment.commaList text =
    (((text.toList.splitOn ',').map trim).filter (· ≠ [])).map String.ofList := by
  have htrim : trimText ∘ String.ofList = String.ofList ∘ trim := by
    funext part
    rw [Function.comp_apply, trimText, String.toList_ofList, Function.comp_apply]
  have hempty : (fun text : String => !text.isEmpty) ∘ String.ofList =
      fun part => decide (part ≠ []) := by
    funext part
    cases part <;> simp
  rw [Environment.commaList, splitOn_comma, List.map_map, htrim, ← List.map_map, List.filter_map,
    hempty]

theorem spellsList_iff {text : String} {items : List String} :
    SpellsList text items ↔ items = Environment.commaList text := by
  rw [commaList_eq]
  constructor
  · rintro ⟨parts, hne, htext, hparts, rfl⟩
    rw [← htext, List.splitOn_intercalate ',' hparts hne]
  · rintro rfl
    exact ⟨_, List.splitOn_ne_nil _ _, List.intercalate_splitOn _, notMem_of_mem_splitOn, rfl⟩

end LogPattern
