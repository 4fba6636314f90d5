import LogPattern.Proofs.Pattern.Division
import LogPattern.Proofs.Text.ByteOrder

/-!
# Cutting a text by bytes

An offset counts bytes.  A part of a text can be cut out between two offsets at which
characters begin or the text ends, the second not before the first, and only there; so a cut
that is made succeeds just when it divides the text.  A mark of ASCII characters is found by
its bytes where it is found by its characters, since no other character has their bytes in it.
-/

namespace LogPattern.Bytewise

open String

/-! ## Sizes -/

@[simp]
theorem byteCount_nil : byteCount [] = 0 := rfl

theorem byteCount_cons (c : Char) (text : List Char) :
    byteCount (c :: text) = c.utf8Size + byteCount text := by
  rw [← List.singleton_append, byteCount_append]
  simp [byteCount]

theorem byteCount_reverse (text : List Char) : byteCount text.reverse = byteCount text := by
  induction text with
  | nil => rfl
  | cons c text ih =>
      rw [List.reverse_cons, byteCount_append, ih, byteCount_cons, byteCount_cons, byteCount_nil]
      omega

/-! ## Parts -/

/-- The part of a text between two offsets, if it can be cut there. -/
def slice? (text : String) (start stop : Nat) : Option String :=
  if h : Pos.Raw.IsValid text ⟨start⟩ ∧ Pos.Raw.IsValid text ⟨stop⟩ ∧ start ≤ stop then
    some (text.extract (text.pos ⟨start⟩ h.1) (text.pos ⟨stop⟩ h.2.1))
  else none

def sliceFrom? (text : String) (start : Nat) : Option String := slice? text start text.utf8ByteSize

def sliceTo? (text : String) (stop : Nat) : Option String := slice? text 0 stop

theorem isValid_append (front back : String) :
    Pos.Raw.IsValid (front ++ back) ⟨front.utf8ByteSize⟩ :=
  Pos.Raw.isValid_iff_exists_append.2 ⟨front, back, rfl, rfl⟩

theorem slice?_append (front part back : String) :
    slice? (front ++ part ++ back) front.utf8ByteSize (front.utf8ByteSize + part.utf8ByteSize) =
      some part := by
  have hstart := isValid_append front (part ++ back)
  have hstop := isValid_append (front ++ part) back
  rw [← String.append_assoc] at hstart
  rw [utf8ByteSize_append] at hstop
  rw [slice?, dif_pos ⟨hstart, hstop, Nat.le_add_right _ _⟩, Option.some.injEq, ← toByteArray_inj,
    toByteArray_extract, toByteArray_append, toByteArray_append, ByteArray.append_assoc]
  have hoffsets : (front.toByteArray ++ (part.toByteArray ++ back.toByteArray)).extract
      front.toByteArray.size (front.toByteArray.size + part.toByteArray.size) =
        part.toByteArray := by
    have hbehind := @ByteArray.extract_append_size_add front.toByteArray
      (part.toByteArray ++ back.toByteArray) 0 part.toByteArray.size
    rwa [ByteArray.extract_append_eq_left rfl] at hbehind
  rwa [size_toByteArray, size_toByteArray] at hoffsets

/-- A part is cut out just where it divides the text. -/
theorem slice?_eq_some_iff {text part : String} {start stop : Nat} :
    slice? text start stop = some part ↔ ∃ front back, text = front ++ part ++ back ∧
      start = front.utf8ByteSize ∧ stop = front.utf8ByteSize + part.utf8ByteSize := by
  constructor
  · intro h
    have hcut := h
    unfold slice? at h
    split at h
    · next hvalid =>
        obtain ⟨hfirst, hlast, hle⟩ := hvalid
        obtain ⟨front, behind, hfront, hstart⟩ := Pos.Raw.isValid_iff_exists_append.1 hfirst
        obtain ⟨before, back, hback, hstop⟩ := Pos.Raw.isValid_iff_exists_append.1 hlast
        obtain rfl : start = front.utf8ByteSize := congrArg Pos.Raw.byteIdx hstart
        obtain rfl : stop = before.utf8ByteSize := congrArg Pos.Raw.byteIdx hstop
        obtain ⟨middle, rfl⟩ : ∃ middle, before = front ++ middle := by
          have hparts : front.toList ++ behind.toList = before.toList ++ back.toList := by
            rw [← toList_append, ← toList_append, ← hfront, hback]
          rcases List.append_eq_append_iff.1 hparts with ⟨middle, hbefore, -⟩ | ⟨middle, hlonger, -⟩
          · exact ⟨ofList middle, by rw [← toList_inj, hbefore]; simp⟩
          · have hfront : front = before ++ ofList middle := by
              rw [← toList_inj, hlonger]
              simp
            have hnone : ofList middle = "" := by
              rw [hfront, utf8ByteSize_append] at hle
              exact utf8ByteSize_eq_zero_iff.1 (by omega)
            exact ⟨"", by rw [hfront, hnone, append_empty, append_empty]⟩
        rw [utf8ByteSize_append, hback, slice?_append] at hcut
        cases hcut
        exact ⟨front, back, hback, rfl, utf8ByteSize_append⟩
    · cases h
  · rintro ⟨front, back, rfl, rfl, rfl⟩
    exact slice?_append front part back

variable {text : String} {front part back : List Char}

theorem slice?_of_toList (h : text.toList = front ++ part ++ back) :
    slice? text (byteCount front) (byteCount front + byteCount part) = some (ofList part) := by
  have htext : text = ofList front ++ ofList part ++ ofList back := by
    rw [← toList_inj, h]
    simp
  rw [htext, byteCount_eq, byteCount_eq, slice?_append]

theorem utf8ByteSize_of_toList (h : text.toList = front) : text.utf8ByteSize = byteCount front := by
  rw [byteCount_eq, ← h, ofList_toList]

theorem sliceFrom?_of_toList (h : text.toList = front ++ back) :
    sliceFrom? text (byteCount front) = some (ofList back) := by
  have hsize : text.utf8ByteSize = byteCount front + byteCount back := by
    rw [utf8ByteSize_of_toList h, byteCount_append]
  rw [sliceFrom?, hsize]
  exact slice?_of_toList (by rw [h, List.append_nil])

theorem sliceTo?_of_toList (h : text.toList = front ++ back) :
    sliceTo? text (byteCount front) = some (ofList front) := by
  have hslice := @slice?_of_toList text [] front back h
  rwa [byteCount, List.foldl_nil, Nat.zero_add] at hslice

/-! ## Bytes -/

def encode (text : List Char) : List UInt8 := text.flatMap utf8EncodeChar

@[simp]
theorem encode_nil : encode [] = [] := rfl

@[simp]
theorem encode_cons (c : Char) (text : List Char) :
    encode (c :: text) = utf8EncodeChar c ++ encode text := List.flatMap_cons

@[simp]
theorem encode_append (front back : List Char) :
    encode (front ++ back) = encode front ++ encode back := List.flatMap_append

theorem length_encode (text : List Char) : (encode text).length = byteCount text := by
  induction text with
  | nil => rfl
  | cons c text ih =>
      rw [encode_cons, List.length_append, ih, length_utf8EncodeChar, byteCount_cons]

theorem utf8Bytes_of_toList {text : String} {chars : List Char} (h : text.toList = chars) :
    utf8Bytes text = encode chars := by rw [utf8Bytes_eq, h, encode]

def IsAscii (c : Char) : Prop := c.toNat < 128

instance (c : Char) : Decidable (IsAscii c) := inferInstanceAs (Decidable (c.toNat < 128))

theorem utf8EncodeChar_of_isAscii {c : Char} (h : IsAscii c) : utf8EncodeChar c = [c.toUInt8] := by
  have hle : c.val.toNat ≤ 0x7f := Nat.le_of_lt_succ h
  rw [utf8EncodeChar, if_pos hle]
  rfl

theorem encode_cons_of_isAscii {c : Char} (h : IsAscii c) (text : List Char) :
    encode (c :: text) = c.toUInt8 :: encode text := by
  rw [encode_cons, utf8EncodeChar_of_isAscii h, List.singleton_append]

theorem toNat_toUInt8_of_isAscii {c : Char} (h : IsAscii c) : c.toUInt8.toNat = c.toNat :=
  Nat.mod_eq_of_lt (Nat.lt_trans h (by decide))

theorem ne_toUInt8_of_high {byte : UInt8} (hbyte : 128 ≤ byte.toNat) {c : Char} (h : IsAscii c) :
    byte ≠ c.toUInt8 := by
  rintro rfl
  rw [toNat_toUInt8_of_isAscii h] at hbyte
  exact Nat.not_lt.2 hbyte h

theorem high_of_mem_utf8EncodeChar {c : Char} (h : ¬ IsAscii c) {byte : UInt8}
    (hbyte : byte ∈ utf8EncodeChar c) : 128 ≤ byte.toNat := by
  have hlow : ¬ c.val.toNat ≤ 0x7f := fun hle => h (Nat.lt_succ_of_le hle)
  have hhigh (m n : Nat) (hn : 128 ≤ n ∧ m + n < 256) : 128 ≤ (UInt8.ofNat (m + n)).toNat := by
    rw [UInt8.toNat_ofNat', Nat.mod_eq_of_lt hn.2]
    omega
  simp only [utf8EncodeChar, hlow, if_false] at hbyte
  split_ifs at hbyte <;> simp only [List.mem_cons, List.not_mem_nil, or_false] at hbyte <;>
    rcases hbyte with rfl | rfl | rfl | rfl <;> exact hhigh _ _ (by omega)

/-- The first byte tells the ASCII characters apart, and those behind it are not theirs. -/
theorem exists_utf8EncodeChar (c : Char) :
    ∃ byte more, utf8EncodeChar c = byte :: more ∧ (∀ other ∈ more, 128 ≤ other.toNat) ∧
      ∀ mark, IsAscii mark → (byte = mark.toUInt8 ↔ c = mark) := by
  by_cases hc : IsAscii c
  · refine ⟨c.toUInt8, [], utf8EncodeChar_of_isAscii hc, by simp, fun mark hmark => ?_⟩
    rw [← UInt8.toNat_inj, toNat_toUInt8_of_isAscii hc, toNat_toUInt8_of_isAscii hmark]
    exact Char.toNat_inj
  · have hlength : 0 < (utf8EncodeChar c).length := by
      rw [length_utf8EncodeChar]
      exact c.utf8Size_pos
    obtain ⟨byte, more, hbytes⟩ := List.exists_cons_of_length_pos hlength
    have hhigh : ∀ other ∈ byte :: more, 128 ≤ other.toNat :=
      fun other hother => high_of_mem_utf8EncodeChar hc (hbytes ▸ hother)
    rw [List.forall_mem_cons] at hhigh
    refine ⟨byte, more, hbytes, hhigh.2, fun mark hmark => ⟨?_, ?_⟩⟩
    · exact fun hbyte => absurd hbyte (ne_toUInt8_of_high hhigh.1 hmark)
    · rintro rfl
      exact absurd hmark hc

theorem getElem?_encode_append (front : List Char) {mark : Char} (h : IsAscii mark)
    (text : List Char) :
    (encode (front ++ text))[byteCount front]? = some mark.toUInt8 ↔ text.head? = some mark := by
  rw [encode_append, ← length_encode, List.getElem?_append_right (Nat.le_refl _), Nat.sub_self]
  cases text with
  | nil => simp
  | cons c rest =>
      obtain ⟨byte, more, hbytes, -, hmark⟩ := exists_utf8EncodeChar c
      rw [encode_cons, hbytes]
      simp [hmark mark h]

theorem encode_isPrefix_iff {mark text : List Char} (h : ∀ c ∈ mark, IsAscii c) :
    encode mark <+: encode text ↔ mark <+: text := by
  induction mark generalizing text with
  | nil => simp
  | cons first mark ih =>
      rw [List.forall_mem_cons] at h
      rw [encode_cons_of_isAscii h.1]
      cases text with
      | nil => simp
      | cons c text =>
          obtain ⟨byte, more, hbytes, -, hfirst⟩ := exists_utf8EncodeChar c
          rw [encode_cons, hbytes, List.cons_append, List.cons_prefix_cons, List.cons_prefix_cons,
            eq_comm, hfirst first h.1, eq_comm]
          refine and_congr_right fun hc => ?_
          subst hc
          rw [utf8EncodeChar_of_isAscii h.1, List.cons.injEq] at hbytes
          rw [← hbytes.2, List.nil_append, ih h.2]

/-! ## Marks -/

/-- How many bytes stand in front of the first occurrence of some bytes. -/
def place? (mark : List UInt8) : List UInt8 → Option Nat
  | [] => if mark.isEmpty then some 0 else none
  | byte :: rest =>
      if mark.isPrefixOf (byte :: rest) then some 0 else (place? mark rest).map (· + 1)

def find? (mark text : String) : Option Nat := place? (utf8Bytes mark) (utf8Bytes text)

theorem place?_append_of_high {first : UInt8} {mark front : List UInt8} (hfirst : first.toNat < 128)
    (hfront : ∀ other ∈ front, 128 ≤ other.toNat) (rest : List UInt8) :
    place? (first :: mark) (front ++ rest) =
      (place? (first :: mark) rest).map (· + front.length) := by
  induction front with
  | nil => simp
  | cons other front ih =>
      rw [List.forall_mem_cons] at hfront
      have hother : (first :: mark).isPrefixOf (other :: (front ++ rest)) = false := by
        have hne : first ≠ other := by
          rintro rfl
          omega
        simp [List.isPrefixOf, hne]
      rw [List.cons_append, place?, hother, ih hfront.2, Option.map_map]
      rfl

theorem place?_encode {first : Char} {mark : List Char} (hfirst : IsAscii first)
    (hmark : ∀ c ∈ mark, IsAscii c) (before text : List Char) :
    (place? (encode (first :: mark)) (encode text)).map (byteCount before + ·) =
      (splitAtMarkFrom (first :: mark) before text).map fun parts => byteCount parts.1 := by
  have hascii : ∀ c ∈ first :: mark, IsAscii c := List.forall_mem_cons.2 ⟨hfirst, hmark⟩
  have hbytes := encode_cons_of_isAscii hfirst mark
  have hlow : first.toUInt8.toNat < 128 := (toNat_toUInt8_of_isAscii hfirst).symm ▸ hfirst
  induction text generalizing before with
  | nil => simp [splitAtMarkFrom, place?, hbytes]
  | cons c text ih =>
      obtain ⟨byte, more, hc, hmore, -⟩ := exists_utf8EncodeChar c
      have hprefix : (encode (first :: mark)).isPrefixOf (byte :: (more ++ encode text)) =
          (first :: mark).isPrefixOf (c :: text) := by
        rw [Bool.eq_iff_iff, List.isPrefixOf_iff_prefix, List.isPrefixOf_iff_prefix,
          ← encode_isPrefix_iff hascii, encode_cons c, hc, List.cons_append]
      rw [encode_cons c, hc, List.cons_append, place?, hprefix, splitAtMarkFrom]
      split
      · simp [byteCount_reverse]
      · have hsize : c.utf8Size = more.length + 1 := by
          rw [← length_utf8EncodeChar, hc, List.length_cons]
        rw [← ih, hbytes, place?_append_of_high hlow hmore, Option.map_map, Option.map_map,
          byteCount_cons, hsize]
        refine Option.map_congr fun place _ => ?_
        simp only [Function.comp_apply]
        omega

/-- A mark of ASCII characters is found by bytes where it is found by characters. -/
theorem find?_ofList {mark : List Char} (hne : mark ≠ []) (hmark : ∀ c ∈ mark, IsAscii c)
    (text : List Char) :
    find? (ofList mark) (ofList text) =
      (splitAtMark mark text).map fun parts => byteCount parts.1 := by
  cases mark with
  | nil => exact absurd rfl hne
  | cons first mark =>
      rw [List.forall_mem_cons] at hmark
      have hplace := place?_encode hmark.1 hmark.2 [] text
      rw [byteCount_nil] at hplace
      rw [find?, utf8Bytes_of_toList toList_ofList, utf8Bytes_of_toList toList_ofList, splitAtMark,
        ← hplace]
      simp

end LogPattern.Bytewise
