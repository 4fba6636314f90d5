import Mathlib.Data.String.Basic

/-!
# The order of texts by their bytes

Texts are in the order of their bytes in UTF-8 just when they are in the order of their
characters.
-/

namespace LogPattern

def utf8Bytes (text : String) : List UInt8 := text.toUTF8.data.toList

theorem utf8Bytes_eq (text : String) :
    utf8Bytes text = text.toList.flatMap String.utf8EncodeChar := by
  obtain ⟨chars, rfl⟩ : ∃ chars, text = String.ofList chars := ⟨_, String.ofList_toList.symm⟩
  simp [utf8Bytes, List.utf8Encode]

theorem cons_byte_lt {m n : Nat} (hm : m < 256) (hn : n < 256) {front back : List UInt8} :
    UInt8.ofNat m :: front < UInt8.ofNat n :: back ↔ m < n ∨ m = n ∧ front < back := by
  rw [List.cons_lt_cons_iff, UInt8.lt_iff_toNat_lt, ← UInt8.toNat_inj, UInt8.toNat_ofNat',
    UInt8.toNat_ofNat', Nat.mod_eq_of_lt hm, Nat.mod_eq_of_lt hn]

/-- A character of lower code has lower bytes, whatever follows it. -/
theorem utf8EncodeChar_append_lt {c d : Char} (h : c < d) (front back : List UInt8) :
    String.utf8EncodeChar c ++ front < String.utf8EncodeChar d ++ back := by
  have hd := d.valid
  have hlt : c.val.toNat < d.val.toNat := UInt32.lt_iff_toNat_lt.1 h
  simp only [UInt32.isValidChar, Nat.isValidChar] at hd
  have hblock (code : Nat) : code / 4096 = code / 64 / 64 := by omega
  have hlarge (code : Nat) : code / 262144 = code / 64 / 64 / 64 := by omega
  simp only [String.utf8EncodeChar, hblock, hlarge]
  generalize c.val.toNat = m at hlt ⊢
  generalize d.val.toNat = n at hd hlt ⊢
  -- both characters are one to four bytes long, and the longer one has the higher first byte
  split_ifs <;> simp (disch := omega) only [List.cons_append, List.nil_append, cons_byte_lt] <;>
    omega

theorem flatMap_utf8EncodeChar_lt {front back : List Char} (h : front < back) :
    front.flatMap String.utf8EncodeChar < back.flatMap String.utf8EncodeChar := by
  induction front generalizing back with
  | nil =>
      cases back with
      | nil => exact absurd h (List.lt_irrefl [])
      | cons d back =>
          cases hbytes : (d :: back).flatMap String.utf8EncodeChar with
          | nil => simp at hbytes
          | cons byte bytes => exact List.nil_lt_cons byte bytes
  | cons c front ih =>
      cases back with
      | nil => exact absurd h (List.not_lt_nil _)
      | cons d back =>
          rw [List.flatMap_cons, List.flatMap_cons]
          rcases List.cons_lt_cons_iff.1 h with hlower | ⟨rfl, hrest⟩
          · exact utf8EncodeChar_append_lt hlower _ _
          · exact List.append_left_lt (ih hrest)

/-- The order of texts is the order of their bytes. -/
theorem lt_iff_utf8Bytes_lt {text other : String} :
    text < other ↔ utf8Bytes text < utf8Bytes other := by
  have hbytes {a b : String} (h : a < b) : utf8Bytes a < utf8Bytes b := by
    rw [utf8Bytes_eq, utf8Bytes_eq]
    exact flatMap_utf8EncodeChar_lt (String.lt_iff_toList_lt.1 h)
  refine ⟨hbytes, fun h => ?_⟩
  rcases lt_trichotomy text other with hlower | rfl | hhigher
  · exact hlower
  · exact absurd h (List.lt_irrefl _)
  · exact absurd h (List.lt_asymm (hbytes hhigher))

end LogPattern
