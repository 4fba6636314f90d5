import LogPattern.Proofs.Bytewise.Slice
import LogPattern.Proofs.Pattern.Readings

/-!
# The length of an opener

The bytes behind an opening parenthesis tell whether it opens a capturing group, and how long the
opener is.  The length can be told from any bytes, and from those of a text it is the length of
the opener there.
-/

namespace LogPattern.Bytewise

open String

def bytesFrom? (bytes : List UInt8) (start : Nat) : Option (List UInt8) :=
  if start ≤ bytes.length then some (bytes.drop start) else none

def nameStart? (input : List UInt8) : Option Nat :=
  if input[2]? = some 'P'.toUInt8 ∧ input[3]? = some '<'.toUInt8 then some 4
  else if input[2]? = some '<'.toUInt8 then
    if input[3]? = some '='.toUInt8 ∨ input[3]? = some '!'.toUInt8 then none else some 3
  else none

/-- The length of the opener of a capturing group that bytes begin with, if it is one. -/
def openerLength? (input : List UInt8) : Option (Option Nat) :=
  if input[1]? = some '?'.toUInt8 then
    match nameStart? input with
    | none => some none
    | some start =>
        (bytesFrom? input start).map fun name =>
          (place? ['>'.toUInt8] name).map fun stop => start + stop + 1
  else some (some 1)

theorem le_of_nameStart? {input : List UInt8} {start : Nat} (h : nameStart? input = some start) :
    start ≤ input.length := by
  have hbound {index : Nat} {byte : UInt8} (hbyte : input[index]? = some byte) :
      index < input.length := (List.getElem?_eq_some_iff.1 hbyte).1
  unfold nameStart? at h
  split at h
  · next hname =>
      cases h
      exact hbound hname.2
  · split at h
    · next hangle =>
        split at h
        · cases h
        · cases h
          exact hbound hangle
    · cases h

theorem isSome_openerLength? (input : List UInt8) : (openerLength? input).isSome := by
  unfold openerLength?
  split
  · split
    · rfl
    · next hstart => simp [bytesFrom?, le_of_nameStart? hstart]
  · rfl

theorem pos_of_openerLength? {input : List UInt8} {length : Nat}
    (h : openerLength? input = some (some length)) : 0 < length := by
  unfold openerLength? at h
  split at h
  · split at h
    · cases h
    · obtain ⟨name, -, h⟩ := Option.map_eq_some_iff.1 h
      obtain ⟨stop, -, rfl⟩ := Option.map_eq_some_iff.1 h
      exact Nat.succ_pos _
  · cases h
    exact Nat.one_pos

theorem nameStart?_encode (more : List Char) :
    nameStart? (encode ('(' :: '?' :: more)) =
      match more with
      | 'P' :: '<' :: _ => some 4
      | '<' :: rest =>
          if rest.head? = some '=' ∨ rest.head? = some '!' then none else some 3
      | _ => none := by
  have second {mark : Char} (h : IsAscii mark) :
      (encode ('(' :: '?' :: more))[2]? = some mark.toUInt8 ↔ more.head? = some mark :=
    getElem?_encode_append ['(', '?'] h more
  have named {mark : Char} (h : IsAscii mark) (rest : List Char) :
      (encode ('(' :: '?' :: 'P' :: rest))[3]? = some mark.toUInt8 ↔ rest.head? = some mark :=
    getElem?_encode_append ['(', '?', 'P'] h rest
  have angle {mark : Char} (h : IsAscii mark) (rest : List Char) :
      (encode ('(' :: '?' :: '<' :: rest))[3]? = some mark.toUInt8 ↔ rest.head? = some mark :=
    getElem?_encode_append ['(', '?', '<'] h rest
  obtain ⟨hp, hless, hequals, hbang⟩ :
      IsAscii 'P' ∧ IsAscii '<' ∧ IsAscii '=' ∧ IsAscii '!' := by decide
  split
  · rw [nameStart?, if_pos]
    exact ⟨(second hp).2 rfl, (named hless _).2 rfl⟩
  · simp only [nameStart?, second hp, second hless, angle hequals, angle hbang,
      List.head?_cons]
    rfl
  · next hnamed hangle =>
      have hless : more.head? ≠ some '<' := by
        intro hhead
        obtain ⟨rest, rfl⟩ := List.head?_eq_some_iff.1 hhead
        exact hangle rest rfl
      rw [nameStart?, if_neg, if_neg (mt (second ‹_›).1 hless)]
      rintro ⟨hhead, hnext⟩
      obtain ⟨rest, rfl⟩ := List.head?_eq_some_iff.1 ((second hp).1 hhead)
      obtain ⟨rest, rfl⟩ := List.head?_eq_some_iff.1 ((named ‹_› rest).1 hnext)
      exact hnamed rest rfl

theorem place?_closing (name : List Char) :
    place? ['>'.toUInt8] (encode name) =
      if name.contains '>' then some (byteCount (name.takeWhile (· != '>'))) else none := by
  have hplace := @place?_encode '>' [] (by decide) (List.forall_mem_nil _) [] name
  rw [encode_cons_of_isAscii (by decide), encode_nil, byteCount_nil] at hplace
  simp only [Nat.zero_add, Option.map_id'] at hplace
  rw [hplace]
  split
  · next hcontains =>
      obtain ⟨inner, back, rfl, hinner⟩ :=
        List.eq_append_cons_of_mem (List.contains_iff_mem.1 hcontains)
      rw [splitAtMarkFrom_of_notMem hinner, List.takeWhile_append_of_pos fun c hc =>
        bne_iff_ne.2 (ne_of_mem_of_not_mem hc hinner)]
      simp
  · next hcontains =>
      have hnone : splitAtMark ['>'] name = none :=
        splitAtMark_eq_none (mt List.contains_iff_mem.2 hcontains)
      rw [splitAtMark] at hnone
      rw [hnone]
      rfl

theorem bytesFrom?_encode (front back : List Char) :
    bytesFrom? (encode (front ++ back)) (byteCount front) = some (encode back) := by
  rw [encode_append, ← length_encode]
  simp [bytesFrom?]

theorem openerLength?_of_nameStart? {front name : List Char} (hhead : front.head? = some '?')
    (h : '>' ∉ front)
    (hstart : nameStart? (encode ('(' :: (front ++ name))) = some (byteCount ('(' :: front))) :
    openerLength? (encode ('(' :: (front ++ name))) =
      some (if name.contains '>' then
        some (byteCount ('(' :: ((front ++ name).takeWhile (· != '>') ++ ['>']))) else none) := by
  have hquestion : (encode ('(' :: (front ++ name)))[1]? = some '?'.toUInt8 :=
    (@getElem?_encode_append ['('] '?' (by decide) (front ++ name)).2
      (by rw [List.head?_append, hhead]; rfl)
  have hname : bytesFrom? (encode ('(' :: (front ++ name))) (byteCount ('(' :: front)) =
      some (encode name) := bytesFrom?_encode ('(' :: front) name
  rw [openerLength?, if_pos hquestion, hstart]
  dsimp only
  rw [hname, Option.map_some, place?_closing, List.takeWhile_append_of_pos fun c hc =>
    bne_iff_ne.2 (ne_of_mem_of_not_mem hc h)]
  split
  · simp only [byteCount_cons, byteCount_append, byteCount_nil, Option.map_some, Nat.add_assoc]
    rfl
  · rfl

theorem openerLength?_of_none {more : List Char}
    (h : nameStart? (encode ('(' :: '?' :: more)) = none) :
    openerLength? (encode ('(' :: '?' :: more)) = some none := by
  have hquestion : (encode ('(' :: '?' :: more))[1]? = some '?'.toUInt8 :=
    (@getElem?_encode_append ['('] '?' (by decide) ('?' :: more)).2 rfl
  rw [openerLength?, if_pos hquestion, h]

/-- The opener has the same length in bytes. -/
theorem openerLength?_encode (rest : List Char) :
    openerLength? (encode ('(' :: rest)) =
      some ((captureTail? rest).map fun tail => byteCount ('(' :: tail)) := by
  have named (name : List Char) := @openerLength?_of_nameStart? ['?', 'P', '<'] name rfl (by decide)
    (nameStart?_encode _)
  have angle {name : List Char} (hequals : ∀ tail, name = '=' :: tail → False)
      (hbang : ∀ tail, name = '!' :: tail → False) := by
    have hhead : ¬ (name.head? = some '=' ∨ name.head? = some '!') := by
      simp only [List.head?_eq_some_iff]
      rintro (⟨tail, htail⟩ | ⟨tail, htail⟩)
      · exact hequals tail htail
      · exact hbang tail htail
    exact @openerLength?_of_nameStart? ['?', '<'] name rfl (by decide)
      ((nameStart?_encode _).trans (if_neg hhead))
  unfold captureTail?
  fun_cases openerKind rest with
  | case1 name hclosing => exact (named name).trans (by rw [if_pos hclosing]; rfl)
  | case2 name hclosing => exact (named name).trans (by rw [if_neg hclosing]; rfl)
  | case3 | case4 => exact openerLength?_of_none (nameStart?_encode _)
  | case5 name hequals hbang hclosing =>
      exact (angle hequals hbang).trans (by rw [if_pos hclosing]; rfl)
  | case6 name hequals hbang hclosing =>
      exact (angle hequals hbang).trans (by rw [if_neg hclosing]; rfl)
  | case7 more hnamed _ _ hangle =>
      refine openerLength?_of_none ((nameStart?_encode more).trans ?_)
      split
      · exact absurd rfl (hnamed _)
      · exact absurd rfl (hangle _)
      · rfl
  | case8 _ _ _ _ _ hquestion =>
      have hhead : (encode ('(' :: rest))[1]? ≠ some '?'.toUInt8 := by
        intro hfirst
        obtain ⟨tail, htail⟩ := List.head?_eq_some_iff.1
          ((@getElem?_encode_append ['('] '?' (by decide) rest).1 hfirst)
        exact hquestion tail htail
      rw [openerLength?, if_neg hhead]
      rfl

end LogPattern.Bytewise
