import LogPattern.Proofs.Regex.BracketLocality

/-!
# Parts in place

A part asks for the same before any text that begins alike.  A word boundary needs a
word more: a brace behind it must belong to counts, which the part after it shows.
-/

namespace LogPattern.Regex

variable {verbose : Bool} {t w x x' : List Char}

/-! ## Openers -/

theorem readFlags_local {negated afterHyphen : Bool} {change change' : FlagChange} {stop : Char}
    (h : readFlags negated afterHyphen change (t ++ x) = .ok (change', stop, w ++ x))
    (x' : List Char) :
    readFlags negated afterHyphen change (t ++ x') = .ok (change', stop, w ++ x') := by
  induction t generalizing negated afterHyphen change with
  | nil => exact absurd (readFlags_suffix h).2 not_longer_suffix
  | cons c t ih =>
      rw [List.cons_append, readFlags] at h ⊢
      split at h
      · next hstop =>
          rw [if_pos hstop]
          split at h
          · cases h
          · next hhyphen =>
              rw [if_neg hhyphen]
              obtain ⟨rfl, hread⟩ := Prod.mk.inj (Except.ok.inj h)
              obtain ⟨rfl, hw⟩ := Prod.mk.inj hread
              rw [List.append_cancel_right hw]
      · next hstop =>
          rw [if_neg hstop]
          split at h
          · next hminus =>
              rw [if_pos hminus]
              split at h
              · cases h
              · next hnegated =>
                  rw [if_neg hnegated]
                  exact ih h
          · next hminus =>
              rw [if_neg hminus]
              split at h
              · cases h
              · next flag hflag =>
                  split at h
                  · cases h
                  · next hnew =>
                      simp only [hnew]
                      exact ih h

theorem readGroupName_local {name : String} (h : readGroupName (t ++ x) = .ok (name, w ++ x))
    (x' : List Char) : readGroupName (t ++ x') = .ok (name, w ++ x') := by
  obtain ⟨first, more, htext, hname⟩ := readGroupName_iff.1 h
  have ht : t = first :: more ++ '>' :: w := List.append_cancel_right (by simpa using htext)
  exact readGroupName_iff.2 ⟨first, more, by simp [ht], hname⟩

theorem readGroupAction_local {action : Action} (halike : Alike verbose x x')
    (h : readGroupAction verbose (t ++ x) = .ok (action, w ++ x)) :
    readGroupAction verbose (t ++ x') = .ok (action, w ++ x') := by
  rw [readGroupAction_iff] at h ⊢
  cases h with
  | named htext hname =>
      obtain ⟨c, -, hrest⟩ := readGroupName_suffix hname
      have hrest := (List.suffix_cons c _).trans hrest
      rcases htext with htext | htext
      · obtain ⟨m, rfl, hblank, -⟩ := exists_front_past ['?', 'P', '<'] halike htext hrest
        exact .named (.inl hblank) (readGroupName_local hname x')
      · obtain ⟨m, rfl, hblank, -⟩ := exists_front_past ['?', '<'] halike htext hrest
        exact .named (.inr hblank) (readGroupName_local hname x')
  | enter htext hflags =>
      obtain ⟨m, rfl, hblank, -⟩ := exists_front_behind halike htext
        ((List.suffix_cons _ _).trans (readFlags_suffix hflags).2)
      exact .enter hblank (readFlags_local hflags x')
  | direct htext hflags hchange =>
      obtain ⟨m, rfl, hblank, -⟩ := exists_front_behind halike htext
        ((List.suffix_cons _ _).trans (readFlags_suffix hflags).2)
      exact .direct hblank (readFlags_local hflags x') hchange
  | bare htext hplain =>
      refine .bare (skipBlank_local halike htext) ?_
      cases w with
      | nil => exact halike.head?_ne (by decide) (by decide) hplain
      | cons c w => exact hplain

/-! ## Counts -/

theorem dropWhile_isWhite_brace (t x : List Char) :
    (t ++ '}' :: x).dropWhile isWhite = t.dropWhile isWhite ++ '}' :: x := by
  have hbrace : isWhite '}' = false := by decide
  rw [List.dropWhile_append]
  split
  · next h => simp [List.isEmpty_iff.1 h, hbrace]
  · rfl

theorem readCountFrom_local {comment : Bool} {value value' : Option Nat}
    (h : readCountFrom verbose comment value (t ++ '}' :: x) = (value', w ++ '}' :: x))
    (x' : List Char) :
    readCountFrom verbose comment value (t ++ '}' :: x') = (value', w ++ '}' :: x') := by
  induction t generalizing comment value with
  | nil =>
      have hdigit : '}'.isDigit = false := by decide
      have hwhite : isWhite '}' = false := by decide
      cases comment with
      | true =>
          simp only [List.nil_append, readCountFrom, if_true] at h
          exact absurd (readCountFrom_suffix h) not_suffix_tail
      | false =>
          have stay (x : List Char) :
              readCountFrom verbose false value ('}' :: x) = (value, '}' :: x) := by
            simp [readCountFrom, hdigit, hwhite]
          rw [List.nil_append, stay] at h
          obtain ⟨rfl, hw⟩ := Prod.mk.inj h
          obtain rfl : [] = w := List.append_cancel_right hw
          exact stay x'
  | cons c t ih =>
      rw [List.cons_append, readCountFrom] at h ⊢
      split at h
      · next hcomment =>
          rw [if_pos hcomment]
          exact ih h
      · next hcomment =>
          rw [if_neg hcomment]
          split at h
          · next hdigit =>
              rw [if_pos hdigit]
              exact ih h
          · next hdigit =>
              rw [if_neg hdigit]
              split at h
              · next hwhite =>
                  rw [if_pos hwhite]
                  exact ih h
              · next hwhite =>
                  rw [if_neg hwhite]
                  split at h
                  · next hmark =>
                      rw [if_pos hmark]
                      exact ih h
                  · next hmark =>
                      rw [if_neg hmark]
                      obtain ⟨rfl, hw⟩ := Prod.mk.inj h
                      obtain rfl : c :: t = w := List.append_cancel_right hw
                      rfl

theorem readCount_local {value : Nat}
    (h : readCount verbose (t ++ '}' :: x) = .ok (value, w ++ '}' :: x)) (x' : List Char) :
    readCount verbose (t ++ '}' :: x') = .ok (value, w ++ '}' :: x') := by
  unfold readCount at h ⊢
  rw [dropWhile_isWhite_brace] at h ⊢
  split at h
  · cases h
  · next value' rest hcount =>
      split at h
      · next hsmall =>
          obtain ⟨rfl, hw⟩ := Prod.mk.inj (Except.ok.inj h)
          have hblank := hw ▸ skipBlank_suffix verbose (rest.dropWhile isWhite)
          obtain ⟨m, rfl, -⟩ := exists_front_of_suffix (readCountFrom_suffix hcount)
            (hblank.trans (List.dropWhile_suffix isWhite))
          rw [dropWhile_isWhite_brace] at hw
          simp only [readCountFrom_local hcount x', if_pos hsmall, dropWhile_isWhite_brace,
            skipBlank_local (.brace : Alike verbose _ ('}' :: x')) hw]
      · cases h

inductive CountsRead (verbose : Bool) (text rest : List Char) : Counts → Prop
  | exactly {least : Nat}
      (hleast : readCount verbose (skipBlank verbose text) = .ok (least, '}' :: rest)) :
      CountsRead verbose text rest ⟨least, some least⟩
  | atLeast {least : Nat} {inner : List Char}
      (hleast : readCount verbose (skipBlank verbose text) = .ok (least, ',' :: inner))
      (hclose : skipBlank verbose inner = '}' :: rest) : CountsRead verbose text rest ⟨least, none⟩
  | between {least most : Nat} {inner : List Char}
      (hleast : readCount verbose (skipBlank verbose text) = .ok (least, ',' :: inner))
      (hopen : (skipBlank verbose inner).head? ≠ some '}')
      (hmost : readCount verbose (skipBlank verbose inner) = .ok (most, '}' :: rest))
      (horder : least ≤ most) : CountsRead verbose text rest ⟨least, some most⟩

theorem readCounts_iff {counts : Counts} {text rest : List Char} :
    readCounts verbose text = .ok (counts, rest) ↔ CountsRead verbose text rest counts := by
  constructor
  · intro h
    obtain ⟨⟨least, after⟩, hleast, h⟩ := except_bind_eq_ok h
    dsimp only at h
    split at h
    · cases h
      exact .exactly hleast
    · next inner =>
        split at h
        · next hclose =>
            cases h
            exact .atLeast hleast hclose
        · next hopen =>
            obtain ⟨⟨most, back⟩, hmost, h⟩ := except_bind_eq_ok h
            dsimp only at h
            split at h
            · split at h
              · next horder =>
                  cases h
                  refine .between hleast (fun hhead => ?_) hmost horder
                  obtain ⟨tail, htail⟩ := List.head?_eq_some_iff.1 hhead
                  exact hopen _ htail
              · cases h
            · cases h
    · cases h
  · intro h
    unfold readCounts
    cases h with
    | exactly hleast =>
        simp only [hleast, bind, Except.bind]
        rfl
    | atLeast hleast hclose =>
        simp only [hleast, bind, Except.bind, hclose]
        rfl
    | between hleast hopen hmost horder =>
        simp only [hleast, bind, Except.bind]
        split
        · next heq =>
            rw [heq] at hopen
            exact absurd rfl hopen
        · simp [hmost, horder, pure, Except.pure]

theorem readCounts_local {counts : Counts}
    (h : readCounts verbose (t ++ x) = .ok (counts, w ++ x)) (x' : List Char) :
    readCounts verbose (t ++ x') = .ok (counts, w ++ x') := by
  obtain ⟨front, hfront⟩ := readCounts_suffix h
  have ht : t = front ++ '}' :: w := List.append_cancel_right (by simpa using hfront.symm)
  subst ht
  have closed (x : List Char) : front ++ '}' :: w ++ x = front ++ '}' :: (w ++ x) := by simp
  rw [closed] at h ⊢
  generalize w ++ x = y at h
  generalize w ++ x' = y'
  rw [readCounts_iff] at h ⊢
  -- a count is read in place behind blanks, if a brace is left
  have count {t m : List Char} {value : Nat}
      (h : readCount verbose (skipBlank verbose (t ++ '}' :: y)) = .ok (value, m ++ '}' :: y)) :
      readCount verbose (skipBlank verbose (t ++ '}' :: y')) = .ok (value, m ++ '}' :: y') := by
    obtain ⟨n, hn, hn', -⟩ := exists_front_skipBlank (.brace : Alike verbose _ ('}' :: y'))
      (readCount_suffix h)
    rw [hn] at h
    rw [hn']
    exact readCount_local h y'
  have left {inner : List Char} {least : Nat} (hclose : '}' :: y <:+ inner)
      (hleast : readCount verbose (skipBlank verbose (front ++ '}' :: y)) =
        .ok (least, ',' :: inner)) :
      ∃ m, inner = m ++ '}' :: y ∧
        readCount verbose (skipBlank verbose (front ++ '}' :: y')) =
          .ok (least, ',' :: (m ++ '}' :: y')) := by
    have hinner := ((List.suffix_cons ',' inner).trans (readCount_suffix hleast)).trans
      (skipBlank_suffix verbose _)
    obtain ⟨m, rfl⟩ := exists_front hinner hclose.length_le
    exact ⟨m, rfl, count (m := ',' :: m) hleast⟩
  cases h with
  | exactly hleast => exact .exactly (count (m := []) hleast)
  | atLeast hleast hclose =>
      obtain ⟨m, rfl, hleast'⟩ := left (hclose ▸ skipBlank_suffix verbose _) hleast
      exact .atLeast hleast' (skipBlank_local (w := []) .brace hclose)
  | between hleast hopen hmost horder =>
      have hclose := readCount_suffix hmost
      obtain ⟨m, rfl, hleast'⟩ := left (hclose.trans (skipBlank_suffix verbose _)) hleast
      refine .between hleast' ?_ (count (m := []) hmost) horder
      obtain ⟨n, hn, hn', -⟩ := exists_front_skipBlank (w := [])
        (.brace : Alike verbose _ ('}' :: y')) hclose
      rw [hn] at hopen
      rw [hn']
      cases n with
      | nil => exact absurd rfl hopen
      | cons c n => exact hopen

/-! ## Parts -/

theorem readLazy_local {greedy : Bool} (halike : Alike verbose x x')
    (h : readLazy (t ++ x) = (greedy, w ++ x)) : readLazy (t ++ x') = (greedy, w ++ x') := by
  have plain {text : List Char} (hhead : text.head? ≠ some '?') : readLazy text = (true, text) := by
    unfold readLazy
    split
    · simp at hhead
    · rfl
  by_cases ht : t = []
  · subst ht
    by_cases hhead : x.head? = some '?'
    · obtain ⟨tail, rfl⟩ := List.head?_eq_some_iff.1 hhead
      have hw : tail = w ++ '?' :: tail := (Prod.mk.inj h).2
      exact absurd ⟨[], hw.symm⟩ not_suffix_tail
    · rw [List.nil_append, plain hhead] at h
      rw [List.nil_append, plain (halike.head?_ne (by decide) (by decide) hhead)]
      obtain ⟨rfl, hw⟩ := Prod.mk.inj h
      obtain rfl : [] = w := List.append_cancel_right hw
      rfl
  · obtain ⟨c, t, rfl⟩ := List.exists_cons_of_ne_nil ht
    by_cases hc : c = '?'
    · subst hc
      obtain ⟨rfl, hw⟩ := Prod.mk.inj h
      obtain rfl : t = w := List.append_cancel_right hw
      rfl
    · rw [plain (by simpa using hc)] at h
      rw [plain (by simpa using hc)]
      obtain ⟨rfl, hw⟩ := Prod.mk.inj h
      rw [List.append_cancel_right hw]

/-- The characters that are no part on their own, or not the one they are. -/
def partSigns : List Char := ['(', ')', '|', '[', '?', '*', '+', '{', '\\', '.', '^', '$']

theorem readAction_char (verbose : Bool) {c : Char} (hc : c ∉ partSigns) (text : List Char) :
    readAction verbose (c :: text) = .ok (.push (.ofAtom (.char c false)), text) := by
  have hsub : syntaxSigns ⊆ partSigns := List.subset_append_left syntaxSigns ['.', '^', '$']
  have hne {sign : Char} (hsign : sign ∈ partSigns) : c ≠ sign := fun heq => hc (heq ▸ hsign)
  rw [readAction_of_atom verbose (fun hmem => hc (hsub hmem)),
    Atom.ofChar_eq (hne (by decide)) (hne (by decide)) (hne (by decide))]

theorem readAction_local {action : Action} (halike : Alike verbose x x')
    (hcounts : (∃ part, action = .push part) → CountsFollow verbose w x)
    (h : readAction verbose (t ++ x) = .ok (action, w ++ x)) :
    readAction verbose (t ++ x') = .ok (action, w ++ x') := by
  cases t with
  | nil =>
      cases x with
      | nil => cases h
      | cons c x => exact absurd (readAction_suffix h) not_suffix_tail
  | cons c t =>
      have same (hrest : t ++ x = w ++ x) : t ++ x' = w ++ x' := by
        rw [List.append_cancel_right hrest]
      rw [List.cons_append, readAction_iff] at h ⊢
      cases h with
      | group hgroup => exact .group (readGroupAction_local halike hgroup)
      | leave hrest => exact .leave (same hrest)
      | branch hrest => exact .branch (same hrest)
      | bracket hclass hdepth => exact .bracket (readClass_local hclass x') hdepth
      | again hsign hlazy => exact .again hsign (readLazy_local halike hlazy)
      | counted hread hlazy =>
          have hback := (readLazy_leaves hlazy).suffix
          obtain ⟨m, rfl, -⟩ := exists_front_of_suffix
            ((List.suffix_cons _ _).trans (readCounts_suffix hread))
            (hback.trans (skipBlank_suffix verbose _))
          obtain ⟨n, hn, hn', -⟩ := exists_front_skipBlank halike hback
          rw [hn] at hlazy
          exact .counted (readCounts_local hread x') (hn' ▸ readLazy_local halike hlazy)
      | escape hescape =>
          exact .escape (readEscape_local halike (fun _ => hcounts ⟨_, rfl⟩) hescape)
      | atom hc hrest => exact .atom hc (same hrest)

end LogPattern.Regex
