import Mathlib.Data.List.Nodup

/-!
# Lists with keys

In a list where no key occurs twice, a key leads to the one entry that has it, whatever the
order of the list.
-/

namespace LogPattern

variable {α κ : Type} [DecidableEq κ] {key : α → κ} {entries : List α}

theorem find?_key_eq_some_iff (h : (entries.map key).Nodup) {k : κ} {entry : α} :
    entries.find? (key · = k) = some entry ↔ entry ∈ entries ∧ key entry = k := by
  constructor
  · exact fun hfind => ⟨List.mem_of_find?_eq_some hfind, by simpa using List.find?_some hfind⟩
  · rintro ⟨hmem, rfl⟩
    have hsome : (entries.find? (key · = key entry)).isSome = true :=
      List.find?_isSome.2 ⟨entry, hmem, decide_eq_true rfl⟩
    obtain ⟨found, hfind⟩ := Option.isSome_iff_exists.1 hsome
    have hkey : key found = key entry := by simpa using List.find?_some hfind
    rw [hfind, List.inj_on_of_nodup_map h (List.mem_of_find?_eq_some hfind) hmem hkey]

theorem find?_key_perm {other : List α} (hperm : other.Perm entries)
    (h : (entries.map key).Nodup) (k : κ) :
    other.find? (key · = k) = entries.find? (key · = k) := by
  have hother : (other.map key).Nodup := (hperm.map key).nodup_iff.2 h
  refine Option.ext fun entry => ?_
  rw [find?_key_eq_some_iff h, find?_key_eq_some_iff hother, hperm.mem_iff]

theorem lookup_eq_find? {β : Type} [BEq κ] [LawfulBEq κ] (pairs : List (κ × β)) (k : κ) :
    pairs.lookup k = (pairs.find? (·.1 = k)).map (·.2) := by
  induction pairs with
  | nil => rfl
  | cons pair rest ih =>
      rw [List.lookup_cons, List.find?_cons, ih]
      by_cases hkey : pair.1 = k
      · simp [hkey]
      · have hne : (k == pair.1) = false := beq_eq_false_iff_ne.2 (Ne.symm hkey)
        simp [hkey, hne]

end LogPattern
