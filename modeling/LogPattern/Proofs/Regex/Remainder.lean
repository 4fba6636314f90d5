import LogPattern.Proofs.Success
import LogPattern.Regex.Parser
import Mathlib.Data.List.TakeDrop

/-!
# What readers leave of a text

A reader of expressions answers with the end of its text that it has not taken.
Outside brackets it stops at a backslash only when an escape asked for that very
character, so between two parts no backslash ever waits for the character after it.
-/

namespace LogPattern.Regex

/--
`rest` is what is left of `text`, and it does not stand right behind a backslash.
A comment may end the text with one, so an empty rest is exempt.
-/
def Leaves (text rest : List Char) : Prop :=
  ∃ taken, text = taken ++ rest ∧ (rest ≠ [] → taken.getLast? ≠ some '\\')

namespace Leaves

theorem refl (text : List Char) : Leaves text text := ⟨[], rfl, by simp⟩

theorem suffix {text rest : List Char} (h : Leaves text rest) : rest <:+ text := by
  obtain ⟨taken, htext, -⟩ := h
  exact ⟨taken, htext.symm⟩

theorem trans {text middle rest : List Char} (h₁ : Leaves text middle)
    (h₂ : Leaves middle rest) : Leaves text rest := by
  obtain ⟨front, rfl, hfront⟩ := h₁
  obtain ⟨back, rfl, hback⟩ := h₂
  refine ⟨front ++ back, by simp, fun hrest => ?_⟩
  rw [List.getLast?_append]
  cases hlast : back.getLast? with
  | none => simpa using hfront (by simp [hrest])
  | some c => simpa [hlast] using hback hrest

theorem cons {c : Char} {text rest : List Char} (h : Leaves text rest)
    (hc : c ≠ '\\' ∨ rest.length < text.length) : Leaves (c :: text) rest := by
  obtain ⟨taken, rfl, htaken⟩ := h
  refine ⟨c :: taken, rfl, fun hrest => ?_⟩
  cases taken with
  | nil =>
      have hne : c ≠ '\\' := hc.resolve_right (by simp)
      simpa using hne
  | cons d taken => simpa using htaken hrest

theorem of_suffix {c : Char} {text rest : List Char} (hc : c ≠ '\\')
    (h : c :: rest <:+ text) : Leaves text rest := by
  obtain ⟨front, rfl⟩ := h
  exact ⟨front ++ [c], by simp, fun _ => by simpa using hc⟩

end Leaves

/-! ## Blanks -/

theorem ne_backslash_of_isWhite {c : Char} (h : isWhite c = true) : c ≠ '\\' := by
  rintro rfl
  exact absurd h (by decide)

/-- A comment, once begun, takes everything up to the end of its line. -/
theorem leaves_cons_skipVerbose {comment : Bool} {c : Char} (text : List Char)
    (hc : comment = true ∨ c ≠ '\\') : Leaves (c :: text) (skipVerbose comment text) := by
  induction text generalizing comment c with
  | nil => exact ⟨[c], by simp [skipVerbose], by simp [skipVerbose]⟩
  | cons d rest ih =>
      have hlen (b : Bool) : (skipVerbose b rest).length < (d :: rest).length :=
        Nat.lt_succ_of_le (length_skipVerbose_le b rest)
      rw [skipVerbose]
      split
      · have hd : (d != '\n') = true ∨ d ≠ '\\' := by
          by_cases h : d = '\n'
          · exact .inr (by simp [h])
          · exact .inl (by simpa using h)
        exact (ih hd).cons (.inr (hlen _))
      · next hcomment =>
          split
          · next hd => exact (ih (.inr (ne_backslash_of_isWhite hd))).cons (.inr (hlen _))
          · split
            · exact (ih (.inl rfl)).cons (.inr (hlen _))
            · exact (Leaves.refl _).cons (.inl (hc.resolve_left hcomment))

theorem leaves_skipBlank (verbose : Bool) (text : List Char) :
    Leaves text (skipBlank verbose text) := by
  cases verbose with
  | false => exact Leaves.refl _
  | true =>
      cases text with
      | nil => exact Leaves.refl _
      | cons c rest =>
          simp only [skipBlank, if_true, skipVerbose]
          split
          · contradiction
          · split
            · next hc => exact leaves_cons_skipVerbose rest (.inr (ne_backslash_of_isWhite hc))
            · split
              · exact leaves_cons_skipVerbose rest (.inl rfl)
              · exact Leaves.refl _

theorem skipBlank_suffix (verbose : Bool) (text : List Char) : skipBlank verbose text <:+ text :=
  (leaves_skipBlank verbose text).suffix

theorem takeToBrace_suffix {verbose comment : Bool} {taken name text rest : List Char}
    (h : takeToBrace verbose comment taken text = some (name, rest)) : '}' :: rest <:+ text := by
  induction text generalizing comment taken with
  | nil => simp [takeToBrace] at h
  | cons c text ih =>
      rw [takeToBrace] at h
      split at h
      · exact (ih h).trans (List.suffix_cons c text)
      · split at h
        · exact (ih h).trans (List.suffix_cons c text)
        · split at h
          · exact (ih h).trans (List.suffix_cons c text)
          · split at h
            · next hc =>
                cases h
                exact hc ▸ List.suffix_refl _
            · exact (ih h).trans (List.suffix_cons c text)

/-! ## Escapes -/

theorem readFixedHex_leaves {verbose : Bool} {count value code : Nat} {text rest : List Char}
    (h : readFixedHex verbose count value text = .ok (code, rest)) : Leaves text rest := by
  induction count generalizing value text with
  | zero =>
      cases h
      exact Leaves.refl _
  | succ count ih =>
      cases text with
      | nil => simp [readFixedHex] at h
      | cons c text =>
          rw [readFixedHex] at h
          split at h
          · cases h
          · next digit hdigit =>
              have hc : c ≠ '\\' := by
                rintro rfl
                have hnone : hexValue? '\\' = none := by decide
                simp [hnone] at hdigit
              exact ((leaves_skipBlank verbose text).trans (ih h)).cons (.inl hc)

theorem readHex_leaves {verbose : Bool} {count : Nat} {atom : Atom} {text rest : List Char}
    (h : readHex verbose count text = .ok (atom, rest)) : Leaves text rest := by
  refine (leaves_skipBlank verbose text).trans ?_
  rw [readHex] at h
  split at h
  · next inner htext =>
      split at h
      · cases h
      · next digits after htake =>
          split at h
          · cases h
          · cases h
            have hbrace := takeToBrace_suffix htake
            rw [htext]
            exact ((Leaves.of_suffix (by decide) hbrace).trans
              (leaves_skipBlank verbose after)).cons (.inl (by decide))
  · split at h
    · cases h
    · next code after hhex =>
        split at h
        · cases h
        · cases h
          exact readFixedHex_leaves hhex

theorem readProperty_leaves {verbose negated : Bool} {atom : Atom} {text rest : List Char}
    (h : readProperty verbose negated text = .ok (atom, rest)) : Leaves text rest := by
  refine (leaves_skipBlank verbose text).trans ?_
  rw [readProperty] at h
  split at h
  · cases h
  · next inner htext =>
      split at h
      · cases h
      · next name after htake =>
          cases h
          rw [htext]
          exact (Leaves.of_suffix (by decide) (takeToBrace_suffix htake)).cons (.inl (by decide))
  · cases h
  · next c inner _ hne htext =>
      cases h
      rw [htext]
      exact (leaves_skipBlank verbose inner).cons (.inl hne)

theorem readBoundary_leaves {verbose : Bool} {atom : Atom} {text rest : List Char}
    (h : readBoundary verbose text = .ok (atom, rest)) : Leaves text rest := by
  rw [readBoundary.eq_def] at h
  split at h
  · next inner =>
      split at h
      · cases h
      · next c after hblank =>
          split at h
          · split at h
            · cases h
            · next name back htake =>
                split at h
                · cases h
                · cases h
                  have hbrace := takeToBrace_suffix htake
                  rw [← hblank] at hbrace
                  have hinner := (leaves_skipBlank verbose inner).trans
                    (Leaves.of_suffix (by decide) hbrace)
                  exact hinner.cons (.inl (by decide))
          · cases h
            exact Leaves.refl _
  · cases h
    exact Leaves.refl _

/-- An escape takes a character, and stops behind a backslash only if that is the one. -/
theorem readEscape_taken {verbose : Bool} {atom : Atom} {text rest : List Char}
    (h : readEscape verbose text = .ok (atom, rest)) :
    text = '\\' :: rest ∨ ∃ c inner, text = c :: inner ∧ c ≠ '\\' ∧ Leaves inner rest := by
  cases text with
  | nil => simp [readEscape] at h
  | cons c inner =>
      by_cases hc : c = '\\'
      · subst hc
        left
        have hrest : .char '\\' false = atom ∧ inner = rest := by
          simpa [readEscape, isEscapable, isMeta] using h
        rw [hrest.2]
      · refine .inr ⟨c, inner, rfl, hc, ?_⟩
        rw [readEscape.eq_def] at h
        split at h
        · contradiction
        · next heq =>
            cases heq
            split at h
            all_goals first
              | exact readHex_leaves h
              | exact readProperty_leaves h
              | exact readBoundary_leaves h
              | skip
            all_goals
              first
                | cases h
                | (split at h <;> cases h)
              exact Leaves.refl _

theorem readEscape_suffix {verbose : Bool} {atom : Atom} {text rest : List Char}
    (h : readEscape verbose text = .ok (atom, rest)) : rest <:+ text := by
  obtain rfl | ⟨c, inner, rfl, -, hinner⟩ := readEscape_taken h
  · exact List.suffix_cons _ _
  · exact hinner.suffix.trans (List.suffix_cons _ _)

/-! ## Brackets -/

theorem span_suffix {p : Char → Bool} {text front back : List Char}
    (h : text.span p = (front, back)) : back <:+ text := by
  rw [List.span_eq_takeWhile_dropWhile] at h
  cases h
  exact List.dropWhile_suffix p

theorem readNamedClass_suffix {item : ClassTree} {text rest : List Char}
    (h : readNamedClass text = some (item, rest)) : rest <:+ text := by
  have two (a b : Char) (tail : List Char) : tail <:+ a :: b :: tail := ⟨[a, b], rfl⟩
  unfold readNamedClass at h
  split at h
  · next after =>
      split at h
      · next negated inner hstart =>
          have hinner : inner <:+ after := by
            split at hstart
            · cases hstart
              exact List.suffix_cons _ _
            · cases hstart
              exact List.suffix_refl _
          split at h
          · next name tail hspan =>
              obtain ⟨cls, -, hcls⟩ := Option.map_eq_some_iff.1 h
              cases hcls
              exact (((two _ _ _).trans (span_suffix hspan)).trans hinner).trans
                (List.suffix_cons _ _)
          · cases h
  · cases h

theorem readLeadingHyphens_suffix {verbose : Bool} {steps : Nat} {items items' : List ClassTree}
    {text rest : List Char}
    (h : readLeadingHyphens verbose steps items text = (items', rest)) : rest <:+ text := by
  induction steps generalizing items text with
  | zero =>
      cases h
      exact List.suffix_refl _
  | succ steps ih =>
      rw [readLeadingHyphens.eq_def] at h
      split at h
      · next inner heq =>
          cases heq
          exact ((ih h).trans (skipBlank_suffix verbose inner)).trans (List.suffix_cons _ _)
      · cases h
        exact List.suffix_refl _

theorem readClassStart_suffix {verbose negated : Bool} {items : List ClassTree}
    {text rest : List Char}
    (h : readClassStart verbose text = .ok (negated, items, rest)) : rest <:+ text := by
  refine List.IsSuffix.trans ?_ (skipBlank_suffix verbose text)
  unfold readClassStart at h
  extract_lets blank at h
  change rest <:+ blank
  clear_value blank
  split at h
  next caret inner hcaret =>
    have hinner : inner <:+ blank := by
      split at hcaret
      · cases hcaret
        exact (skipBlank_suffix verbose _).trans (List.suffix_cons _ _)
      · cases hcaret
        exact List.suffix_refl _
    refine List.IsSuffix.trans ?_ hinner
    split at h
    next hyphens back hhyphens =>
      refine List.IsSuffix.trans ?_ (readLeadingHyphens_suffix hhyphens)
      split at h
      · cases h
      · next after =>
          dsimp only at h
          split at h
          · cases h
          · cases h
            exact (skipBlank_suffix verbose after).trans (List.suffix_cons _ _)
      · cases h
        exact List.suffix_refl _

theorem readClassAtom_suffix {verbose : Bool} {atom : Atom} {text rest : List Char}
    (h : readClassAtom verbose text = .ok (atom, rest)) : rest <:+ text := by
  unfold readClassAtom at h
  split at h
  · cases h
  · exact (readEscape_suffix h).trans (List.suffix_cons _ _)
  · cases h
    exact List.suffix_cons _ _

/-! ## Openers and counts -/

theorem readFlags_suffix {negated afterHyphen : Bool} {change change' : FlagChange} {stop : Char}
    {text rest : List Char}
    (h : readFlags negated afterHyphen change text = .ok (change', stop, rest)) :
    (stop = ':' ∨ stop = ')') ∧ stop :: rest <:+ text := by
  induction text generalizing negated afterHyphen change with
  | nil => cases h
  | cons c text ih =>
      have later {p : Prop} (hrest : p ∧ stop :: rest <:+ text) : p ∧ stop :: rest <:+ c :: text :=
        ⟨hrest.1, hrest.2.trans (List.suffix_cons c text)⟩
      rw [readFlags] at h
      split at h
      · next hstop =>
          split at h
          · cases h
          · cases h
            exact ⟨hstop, List.suffix_refl _⟩
      · split at h
        · split at h
          · cases h
          · exact later (ih h)
        · split at h
          · cases h
          · split at h
            · cases h
            · exact later (ih h)

theorem readGroupName_suffix {name : String} {text rest : List Char}
    (h : readGroupName text = .ok (name, rest)) : ∃ c, c ≠ '\\' ∧ c :: rest <:+ text := by
  unfold readGroupName at h
  split at h
  · next first more c back hspan =>
      split at h
      · cases h
        refine ⟨c, ?_, span_suffix hspan⟩
        rintro rfl
        rw [List.span_eq_takeWhile_dropWhile] at hspan
        have hhead := List.head?_dropWhile_not (· != '>') text
        rw [(Prod.mk.inj hspan).2] at hhead
        simp at hhead
      · cases h
  · cases h

theorem readCountFrom_suffix {verbose comment : Bool} {value value' : Option Nat}
    {text rest : List Char}
    (h : readCountFrom verbose comment value text = (value', rest)) : rest <:+ text := by
  induction text generalizing comment value with
  | nil =>
      cases h
      exact List.suffix_refl _
  | cons c text ih =>
      have later (hrest : rest <:+ text) : rest <:+ c :: text :=
        hrest.trans (List.suffix_cons c text)
      rw [readCountFrom] at h
      split at h
      · exact later (ih h)
      · split at h
        · exact later (ih h)
        · split at h
          · exact later (ih h)
          · split at h
            · exact later (ih h)
            · cases h
              exact List.suffix_refl _

theorem readCount_suffix {verbose : Bool} {value : Nat} {text rest : List Char}
    (h : readCount verbose text = .ok (value, rest)) : rest <:+ text := by
  unfold readCount at h
  split at h
  · cases h
  · next hcount =>
      split at h
      · cases h
        exact (((skipBlank_suffix verbose _).trans (List.dropWhile_suffix _)).trans
          (readCountFrom_suffix hcount)).trans (List.dropWhile_suffix _)
      · cases h

theorem readCounts_suffix {verbose : Bool} {counts : Counts} {text rest : List Char}
    (h : readCounts verbose text = .ok (counts, rest)) : '}' :: rest <:+ text := by
  obtain ⟨⟨least, after⟩, hleast, h⟩ := except_bind_eq_ok h
  refine List.IsSuffix.trans ?_ ((readCount_suffix hleast).trans (skipBlank_suffix verbose text))
  dsimp only at h
  split at h
  · cases h
    exact List.suffix_refl _
  · next inner =>
      refine List.IsSuffix.trans ?_ (List.suffix_cons _ inner)
      split at h
      · next htext =>
          cases h
          rw [← htext]
          exact skipBlank_suffix verbose inner
      · obtain ⟨⟨most, back⟩, hmost, h⟩ := except_bind_eq_ok h
        refine List.IsSuffix.trans ?_
          ((readCount_suffix hmost).trans (skipBlank_suffix verbose inner))
        dsimp only at h
        split at h
        · split at h
          · cases h
            exact List.suffix_refl _
          · cases h
        · cases h
  · cases h

theorem readLazy_leaves {greedy : Bool} {text rest : List Char}
    (h : readLazy text = (greedy, rest)) : Leaves text rest := by
  unfold readLazy at h
  split at h
  · cases h
    exact (Leaves.refl _).cons (.inl (by decide))
  · cases h
    exact Leaves.refl _

end LogPattern.Regex
