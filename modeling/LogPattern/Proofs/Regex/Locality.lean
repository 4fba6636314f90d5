import LogPattern.Proofs.Regex.Reading

/-!
# How far readers look

A reader that leaves a text unread has looked at no more than its first two characters.
So what stands behind a part can be exchanged: the part reads the same before any text
that begins alike, and a closing parenthesis behind it may as well be the end.
-/

namespace LogPattern.Regex

/-- Nothing follows, or a parenthesis, so that no part before goes on. -/
def Stops (text : List Char) : Prop :=
  text.head? = none ∨ text.head? = some '(' ∨ text.head? = some ')'

/-- What stood behind a part may be exchanged for another text. -/
inductive Alike : (verbose : Bool) → List Char → List Char → Prop
  /-- A parenthesis behind a part also shows that no comment is being read. -/
  | closing {verbose : Bool} {x x' : List Char} (h : Stops x') : Alike verbose (')' :: x) x'
  /-- So does a closing bracket or brace, before any text. -/
  | inside {verbose : Bool} {c : Char} {x x' : List Char} (hc : c = ']' ∨ c = '}') :
      Alike verbose (c :: x) (c :: x')
  | stops {x x' : List Char} (h : Stops x) (h' : Stops x') : Alike false x x'
  | near {x x' : List Char} (h : x.take 2 = x'.take 2) : Alike false x x'

namespace Alike

variable {verbose : Bool} {x x' : List Char}

theorem bracket : Alike verbose (']' :: x) (']' :: x') := .inside (.inl rfl)

theorem brace : Alike verbose ('}' :: x) ('}' :: x') := .inside (.inr rfl)

theorem head?_ne (h : Alike verbose x x') {c : Char} (hopen : c ≠ '(') (hclose : c ≠ ')')
    (hc : x.head? ≠ some c) : x'.head? ≠ some c := by
  have stops {y : List Char} (hy : Stops y) : y.head? ≠ some c := by
    rcases hy with hy | hy | hy <;> rw [hy]
    · simp
    · simpa using hopen.symm
    · simpa using hclose.symm
  cases h with
  | closing h => exact stops h
  | inside _ => simpa using hc
  | stops _ h => exact stops h
  | near h =>
      have hhead : x.head? = x'.head? := by
        have := congrArg List.head? h
        simpa [List.head?_take] using this
      rwa [← hhead]

end Alike

/-! ## Ends of texts -/

/-- What ends a text and is at least as long as another end has that end behind it. -/
theorem exists_front {t x s : List Char} (h : s <:+ t ++ x) (hlen : x.length ≤ s.length) :
    ∃ m, s = m ++ x := by
  obtain ⟨m, hm⟩ := List.suffix_of_suffix_length_le (List.suffix_append t x) h hlen
  exact ⟨m, hm.symm⟩

theorem exists_front_of_suffix {t w x s : List Char} (h : s <:+ t ++ x) (hw : w ++ x <:+ s) :
    ∃ m, s = m ++ x ∧ w <:+ m := by
  have hlen := hw.length_le
  rw [List.length_append] at hlen
  obtain ⟨m, rfl⟩ := exists_front h (by omega)
  obtain ⟨front, hfront⟩ := hw
  rw [← List.append_assoc] at hfront
  exact ⟨m, rfl, front, List.append_cancel_right hfront⟩

theorem not_longer_suffix {c : Char} {w x : List Char} : ¬ c :: (w ++ x) <:+ x := by
  intro h
  have hlen := h.length_le
  simp only [List.length_append, List.length_cons] at hlen
  omega

theorem not_suffix_tail {c : Char} {w x : List Char} : ¬ w ++ c :: x <:+ x := by
  intro h
  have hlen := h.length_le
  simp only [List.length_append, List.length_cons] at hlen
  omega

/-! ## Blanks -/

theorem skipVerbose_of_stops {text : List Char} (h : Stops text) :
    skipVerbose false text = text := by
  cases text with
  | nil => rfl
  | cons c text =>
      have hclose : isWhite ')' = false := by decide
      have hopen : isWhite '(' = false := by decide
      have hc : c = '(' ∨ c = ')' := by simpa [Stops] using h
      rcases hc with rfl | rfl <;> simp [skipVerbose, hclose, hopen]

theorem skipVerbose_of_closing {c : Char} (hc : c = ']' ∨ c = '}') (text : List Char) :
    skipVerbose false (c :: text) = c :: text := by
  have hbracket : isWhite ']' = false := by decide
  have hbrace : isWhite '}' = false := by decide
  rcases hc with rfl | rfl <;> simp [skipVerbose, hbracket, hbrace]

theorem skipVerbose_skipVerbose (comment : Bool) (text : List Char) :
    skipVerbose false (skipVerbose comment text) = skipVerbose comment text := by
  induction text generalizing comment with
  | nil => rfl
  | cons c text ih =>
      rw [skipVerbose]
      split
      · exact ih _
      · split
        · exact ih _
        · next hwhite =>
            split
            · exact ih _
            · next hmark => simp [skipVerbose, hwhite, hmark]

@[simp] theorem skipBlank_skipBlank (verbose : Bool) (text : List Char) :
    skipBlank verbose (skipBlank verbose text) = skipBlank verbose text := by
  cases verbose with
  | false => rfl
  | true => exact skipVerbose_skipVerbose false text

theorem skipVerbose_local {comment : Bool} {d : Char} {t w x x' : List Char}
    (hx : skipVerbose false (d :: x) = d :: x) (hx' : skipVerbose false x' = x')
    (h : skipVerbose comment (t ++ d :: x) = w ++ d :: x) :
    skipVerbose comment (t ++ x') = w ++ x' := by
  induction t generalizing comment with
  | nil =>
      cases comment with
      | false =>
          rw [List.nil_append, hx] at h
          have hw : [] = w := List.append_cancel_right (h : [] ++ d :: x = w ++ d :: x)
          rw [← hw]
          exact hx'
      | true =>
          have hlen := length_skipVerbose_le (d != '\n') x
          simp only [List.nil_append, skipVerbose, if_true] at h
          rw [h, List.length_append, List.length_cons] at hlen
          omega
  | cons c t ih =>
      simp only [List.cons_append, skipVerbose] at h ⊢
      split at h
      · next hcomment =>
          rw [if_pos hcomment]
          exact ih h
      · next hcomment =>
          rw [if_neg hcomment]
          split at h
          · next hwhite =>
              rw [if_pos hwhite]
              exact ih h
          · next hwhite =>
              rw [if_neg hwhite]
              split at h
              · next hmark =>
                  rw [if_pos hmark]
                  exact ih h
              · next hmark =>
                  rw [if_neg hmark]
                  have hw : c :: t = w := List.append_cancel_right (h : c :: t ++ d :: x = _)
                  rw [← hw, List.cons_append]

theorem skipBlank_local {verbose : Bool} {t w x x' : List Char} (halike : Alike verbose x x')
    (h : skipBlank verbose (t ++ x) = w ++ x) : skipBlank verbose (t ++ x') = w ++ x' := by
  have plain (h : skipBlank false (t ++ x) = w ++ x) :
      skipBlank false (t ++ x') = w ++ x' := by
    have hw : t = w := List.append_cancel_right h
    rw [skipBlank_false, hw]
  cases halike with
  | closing hx' =>
      cases verbose with
      | false => exact plain h
      | true =>
          exact skipVerbose_local (skipVerbose_of_stops (.inr (.inr rfl))) (skipVerbose_of_stops hx') h
  | inside hc =>
      cases verbose with
      | false => exact plain h
      | true => exact skipVerbose_local (skipVerbose_of_closing hc _) (skipVerbose_of_closing hc _) h
  | stops _ _ => exact plain h
  | near _ => exact plain h

/-- What is left after blanks, if a reader goes on to leave a text unread. -/
theorem exists_front_skipBlank {verbose : Bool} {t w x x' : List Char}
    (halike : Alike verbose x x') (h : w ++ x <:+ skipBlank verbose (t ++ x)) :
    ∃ m, skipBlank verbose (t ++ x) = m ++ x ∧ skipBlank verbose (t ++ x') = m ++ x' ∧
      w <:+ m := by
  obtain ⟨m, hm, hw⟩ := exists_front_of_suffix (skipBlank_suffix verbose _) h
  exact ⟨m, hm, skipBlank_local halike hm, hw⟩

theorem exists_front_past (taken : List Char) {verbose : Bool} {t w x x' inner : List Char}
    (halike : Alike verbose x x') (hblank : skipBlank verbose (t ++ x) = taken ++ inner)
    (h : w ++ x <:+ inner) :
    ∃ m, inner = m ++ x ∧ skipBlank verbose (t ++ x') = taken ++ (m ++ x') ∧ w <:+ m := by
  have hinner : inner <:+ t ++ x :=
    (List.suffix_append taken inner).trans (hblank ▸ skipBlank_suffix verbose _)
  obtain ⟨m, rfl, hw⟩ := exists_front_of_suffix hinner h
  rw [← List.append_assoc] at hblank
  exact ⟨m, rfl, by rw [skipBlank_local halike hblank, List.append_assoc], hw⟩

theorem exists_front_behind {verbose : Bool} {c : Char} {t w x x' inner : List Char}
    (halike : Alike verbose x x') (hblank : skipBlank verbose (t ++ x) = c :: inner)
    (h : w ++ x <:+ inner) :
    ∃ m, inner = m ++ x ∧ skipBlank verbose (t ++ x') = c :: (m ++ x') ∧ w <:+ m :=
  exists_front_past [c] halike hblank h

theorem takeToBrace_local {verbose comment : Bool} {taken name t w x : List Char}
    (h : takeToBrace verbose comment taken (t ++ x) = some (name, w ++ x)) (x' : List Char) :
    takeToBrace verbose comment taken (t ++ x') = some (name, w ++ x') := by
  induction t generalizing comment taken with
  | nil => exact absurd (takeToBrace_suffix h) not_longer_suffix
  | cons c t ih =>
      simp only [List.cons_append, takeToBrace] at h ⊢
      split at h
      · next hcomment =>
          rw [if_pos hcomment]
          exact ih h
      · next hcomment =>
          rw [if_neg hcomment]
          split at h
          · next hwhite =>
              rw [if_pos hwhite]
              exact ih h
          · next hwhite =>
              rw [if_neg hwhite]
              split at h
              · next hmark =>
                  rw [if_pos hmark]
                  exact ih h
              · next hmark =>
                  rw [if_neg hmark]
                  split at h
                  · next hbrace =>
                      have hread := Prod.mk.inj (Option.some.inj h)
                      rw [if_pos hbrace, hread.1, List.append_cancel_right hread.2]
                  · next hbrace =>
                      rw [if_neg hbrace]
                      exact ih h

/-! ## Escapes -/

theorem readFixedHex_taken {verbose : Bool} {count value code : Nat} {text rest : List Char}
    (h : readFixedHex verbose (count + 1) value text = .ok (code, rest)) :
    ∃ c inner, text = c :: inner ∧ rest <:+ skipBlank verbose inner := by
  cases text with
  | nil => cases h
  | cons c inner =>
      rw [readFixedHex] at h
      split at h
      · cases h
      · exact ⟨c, inner, rfl, (readFixedHex_leaves h).suffix⟩

theorem readFixedHex_local {verbose : Bool} {count value code : Nat} {t w x x' : List Char}
    (halike : Alike verbose x x')
    (h : readFixedHex verbose count value (t ++ x) = .ok (code, w ++ x)) :
    readFixedHex verbose count value (t ++ x') = .ok (code, w ++ x') := by
  induction count generalizing value t with
  | zero =>
      have hread := Prod.mk.inj (Except.ok.inj h)
      rw [readFixedHex, hread.1, List.append_cancel_right hread.2]
  | succ count ih =>
      obtain ⟨c, inner, htext, hrest⟩ := readFixedHex_taken h
      cases t with
      | nil =>
          obtain rfl : x = c :: inner := htext
          exact absurd (hrest.trans (skipBlank_suffix verbose inner)) not_suffix_tail
      | cons d t =>
          obtain ⟨rfl, rfl⟩ := List.cons.inj htext
          obtain ⟨m, hm, hm', -⟩ := exists_front_skipBlank halike hrest
          simp only [List.cons_append, readFixedHex, hm] at h
          simp only [List.cons_append, readFixedHex, hm']
          split at h
          · cases h
          · exact ih h

theorem readHex_local {verbose : Bool} {count : Nat} {atom : Atom} {t w x x' : List Char}
    (halike : Alike verbose x x')
    (h : readHex verbose (count + 1) (t ++ x) = .ok (atom, w ++ x)) :
    readHex verbose (count + 1) (t ++ x') = .ok (atom, w ++ x') := by
  rw [readHex] at h ⊢
  split at h
  · next inner hblank =>
      split at h
      · cases h
      · next digits after htake =>
          split at h
          · cases h
          · next c hc =>
              obtain ⟨rfl, hafter⟩ := Prod.mk.inj (Except.ok.inj h)
              have hrest : w ++ x <:+ after := hafter ▸ skipBlank_suffix verbose after
              have hbrace := (List.suffix_cons _ _).trans (takeToBrace_suffix htake)
              obtain ⟨m, rfl, hm', -⟩ := exists_front_behind halike hblank (hrest.trans hbrace)
              obtain ⟨m₂, rfl, -⟩ := exists_front_of_suffix hbrace hrest
              simp only [hm', takeToBrace_local htake x', hc, skipBlank_local halike hafter]
  · next hplain =>
      split at h
      · cases h
      · next code after hhex =>
          split at h
          · cases h
          · next c hc =>
              obtain ⟨rfl, rfl⟩ := Prod.mk.inj (Except.ok.inj h)
              obtain ⟨d, inner, hblank, hrest⟩ := readFixedHex_taken hhex
              obtain ⟨m, rfl, hm', -⟩ := exists_front_behind halike hblank
                (hrest.trans (skipBlank_suffix verbose inner))
              have hd : d ≠ '{' := fun heq => hplain (m ++ x) (heq ▸ hblank)
              rw [hblank, ← List.cons_append] at hhex
              have hhex' := readFixedHex_local halike hhex
              rw [List.cons_append] at hhex'
              rw [hm']
              split
              · next heq => exact absurd (List.cons.inj heq).1 hd
              · simp only [hhex', hc]

theorem readProperty_local {verbose negated : Bool} {atom : Atom} {t w x x' : List Char}
    (halike : Alike verbose x x')
    (h : readProperty verbose negated (t ++ x) = .ok (atom, w ++ x)) :
    readProperty verbose negated (t ++ x') = .ok (atom, w ++ x') := by
  rw [readProperty] at h ⊢
  split at h
  · cases h
  · next inner hblank =>
      split at h
      · cases h
      · next name after htake =>
          cases hquery : propertyQuery name with
          | mk query turned =>
              simp only [hquery] at h
              obtain ⟨rfl, rfl⟩ := Prod.mk.inj (Except.ok.inj h)
              have hbrace := (List.suffix_cons _ _).trans (takeToBrace_suffix htake)
              obtain ⟨m, rfl, hm', -⟩ := exists_front_behind halike hblank hbrace
              simp only [hm', takeToBrace_local htake x', hquery]
  · cases h
  · next c inner hbrace hslash hblank =>
      obtain ⟨rfl, hinner⟩ := Prod.mk.inj (Except.ok.inj h)
      have hrest : w ++ x <:+ inner := hinner ▸ skipBlank_suffix verbose inner
      obtain ⟨m, rfl, hm', -⟩ := exists_front_behind halike hblank hrest
      simp only [hm', skipBlank_local halike hinner]

/-- A brace that is left behind a word boundary begins counts that can be read. -/
def CountsFollow (verbose : Bool) (w x : List Char) : Prop :=
  ∀ inner, w = '{' :: inner →
    ∃ counts rest, readCounts verbose (inner ++ x) = .ok (counts, rest ++ x)

theorem suffix_of_cons_suffix_cons {c d : Char} {l l' : List Char} (h : c :: l <:+ d :: l') :
    l <:+ l' := by
  rcases List.suffix_cons_iff.1 h with heq | hsuffix
  · exact (List.cons.inj heq).2 ▸ List.suffix_refl _
  · exact (List.suffix_cons c l).trans hsuffix

theorem readCounts_skipBlank (verbose : Bool) (text : List Char) :
    readCounts verbose (skipBlank verbose text) = readCounts verbose text := by
  rw [readCounts, readCounts, skipBlank_skipBlank]

theorem readBoundary_of_head?_ne {verbose : Bool} {text : List Char} (h : text.head? ≠ some '{') :
    readBoundary verbose text = .ok (.assertion .wordBoundary, text) := by
  rw [readBoundary.eq_def]
  split
  · simp at h
  · rfl

theorem readBoundary_brace {verbose : Bool} {atom : Atom} {inner rest : List Char}
    (h : readBoundary verbose ('{' :: inner) = .ok (atom, rest)) :
    ∃ c after, skipBlank verbose inner = c :: after ∧
      ((isBoundaryLetter c = true ∧ ∃ name kind, boundaryNamed? name = some kind ∧
          atom = .assertion kind ∧
          takeToBrace verbose false [] (c :: after) = some (name, rest)) ∨
        (isBoundaryLetter c = false ∧ atom = .assertion .wordBoundary ∧ rest = '{' :: inner)) := by
  rw [readBoundary] at h
  split at h
  · cases h
  · next c after hblank =>
      refine ⟨c, after, hblank, ?_⟩
      split at h
      · next hletter =>
          split at h
          · cases h
          · next name back htake =>
              split at h
              · cases h
              · next kind hkind =>
                  cases h
                  exact .inl ⟨hletter, name, kind, hkind, rfl, htake⟩
      · next hletter =>
          cases h
          exact .inr ⟨by simpa using hletter, rfl, rfl⟩

theorem readBoundary_of_name {verbose : Bool} {kind : Assertion} {c : Char}
    {inner after name rest : List Char} (hblank : skipBlank verbose inner = c :: after)
    (hletter : isBoundaryLetter c = true) (hkind : boundaryNamed? name = some kind)
    (htake : takeToBrace verbose false [] (c :: after) = some (name, rest)) :
    readBoundary verbose ('{' :: inner) = .ok (.assertion kind, rest) := by
  simp only [readBoundary, hblank, hletter, if_true, htake, hkind]

theorem readBoundary_of_counts {verbose : Bool} {c : Char} {inner after : List Char}
    (hblank : skipBlank verbose inner = c :: after) (hletter : isBoundaryLetter c = false) :
    readBoundary verbose ('{' :: inner) = .ok (.assertion .wordBoundary, '{' :: inner) := by
  simp only [readBoundary, hblank, hletter, Bool.false_eq_true, if_false]

theorem readBoundary_local {verbose : Bool} {atom : Atom} {t w x x' : List Char}
    (halike : Alike verbose x x')
    (hcounts : atom = .assertion .wordBoundary → CountsFollow verbose w x)
    (h : readBoundary verbose (t ++ x) = .ok (atom, w ++ x)) :
    readBoundary verbose (t ++ x') = .ok (atom, w ++ x') := by
  have plain {t : List Char} (hhead : (t ++ x).head? ≠ some '{')
      (hhead' : (t ++ x').head? ≠ some '{')
      (h : readBoundary verbose (t ++ x) = .ok (atom, w ++ x)) :
      readBoundary verbose (t ++ x') = .ok (atom, w ++ x') := by
    rw [readBoundary_of_head?_ne hhead] at h
    obtain ⟨rfl, hw⟩ := Prod.mk.inj (Except.ok.inj h)
    rw [readBoundary_of_head?_ne hhead', List.append_cancel_right hw]
  cases t with
  | nil =>
      by_cases hbrace : x.head? = some '{'
      swap
      · exact plain (t := []) hbrace (halike.head?_ne (by decide) (by decide) hbrace) h
      -- only here two characters behind the escape are looked at
      obtain ⟨inner, rfl⟩ := List.head?_eq_some_iff.1 hbrace
      cases halike with
      | inside hc => exact absurd hc (by decide)
      | stops hstops _ => simp [Stops] at hstops
      | near htake =>
          obtain ⟨c, after, hblank, hcases⟩ := readBoundary_brace h
          obtain rfl : inner = c :: after := hblank
          obtain ⟨after', rfl⟩ : ∃ after', x' = '{' :: c :: after' := by
            rcases x' with _ | ⟨a, _ | ⟨b, after'⟩⟩ <;> simp at htake
            exact ⟨after', by rw [htake.1, htake.2]⟩
          rcases hcases with ⟨-, _, _, -, -, htake⟩ | ⟨hletter, rfl, hrest⟩
          · have hlen := (takeToBrace_suffix htake).length_le
            simp only [List.length_cons, List.length_append] at hlen
            omega
          · have hw : w = [] := List.append_cancel_right (hrest : _ = [] ++ '{' :: c :: after)
            rw [hw]
            exact readBoundary_of_counts (skipBlank_false _) hletter
  | cons d t =>
      by_cases hd : d = '{'
      swap
      · exact plain (by simpa using hd) (by simpa using hd) h
      subst hd
      rw [List.cons_append] at h ⊢
      obtain ⟨c, after, hblank, hcases⟩ := readBoundary_brace h
      rcases hcases with ⟨hletter, name, kind, hkind, rfl, htake⟩ | ⟨hletter, rfl, hrest⟩
      · obtain ⟨m, rfl, hm', -⟩ := exists_front_behind halike hblank
          (suffix_of_cons_suffix_cons (takeToBrace_suffix htake))
        exact readBoundary_of_name hm' hletter hkind (takeToBrace_local (t := c :: m) htake x')
      · have hw : w = '{' :: t := List.append_cancel_right hrest
        obtain ⟨counts, rest, hread⟩ := hcounts rfl t hw
        rw [← readCounts_skipBlank, hblank] at hread
        obtain ⟨m, rfl, hm', -⟩ := exists_front_behind halike hblank
          (suffix_of_cons_suffix_cons (readCounts_suffix hread))
        rw [hw]
        exact readBoundary_of_counts hm' hletter

theorem readEscape_local {verbose : Bool} {atom : Atom} {t w x x' : List Char}
    (halike : Alike verbose x x')
    (hcounts : atom = .assertion .wordBoundary → CountsFollow verbose w x)
    (h : readEscape verbose (t ++ x) = .ok (atom, w ++ x)) :
    readEscape verbose (t ++ x') = .ok (atom, w ++ x') := by
  cases t with
  | nil =>
      rcases readEscape_taken h with htext | ⟨c, inner, htext, -, hinner⟩
      · exact absurd ⟨[], htext.symm⟩ not_longer_suffix
      · rw [List.nil_append] at htext
        rw [htext] at hinner
        exact absurd hinner.suffix not_suffix_tail
  | cons c t =>
      have done {kind : Atom} {t : List Char}
          (h : (.ok (kind, t ++ x) : Except Fault (Atom × List Char)) = .ok (atom, w ++ x)) :
          (.ok (kind, t ++ x') : Except Fault (Atom × List Char)) = .ok (atom, w ++ x') := by
        obtain ⟨rfl, hw⟩ := Prod.mk.inj (Except.ok.inj h)
        rw [List.append_cancel_right hw]
      rw [List.cons_append, readEscape.eq_def] at h ⊢
      simp only at h ⊢
      split at h
      case h_1 => exact readHex_local halike h
      case h_2 => exact readHex_local halike h
      case h_3 => exact readHex_local halike h
      case h_4 => exact readProperty_local halike h
      case h_5 => exact readProperty_local halike h
      case h_20 => exact readBoundary_local halike hcounts h
      case h_24 =>
        split at h
        · next hescapable =>
            rw [if_pos hescapable]
            exact done h
        · cases h
      all_goals exact done h

end LogPattern.Regex
