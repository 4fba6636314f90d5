import LogPattern.Proofs.Regex.Locality

/-!
# Classes in place

A class is read up to its closing bracket and no further.  Inside it the readers work
before that bracket, which is what every intermediate text ends in.
-/

namespace LogPattern.Regex

variable {verbose : Bool} {t w x x' : List Char}

/-! ## Named classes -/

def NamedClass.written (negated : Bool) (cls : NamedClass) : List Char :=
  ':' :: ((if negated then ['^'] else []) ++ cls.name.toList ++ [':'])

namespace NamedClass

theorem eq_of_ofName? {text : List Char} {cls : NamedClass}
    (h : ofName? text = some cls) : text = cls.name.toList := by
  have htext : cls.name.toList = text := by simpa using List.find?_some h
  exact htext.symm

theorem notMem_written (negated : Bool) (cls : NamedClass) : ']' ∉ written negated cls := by
  cases negated <;> cases cls <;> decide

end NamedClass

theorem eq_written_of_readNamedClass {item : ClassTree} {text rest : List Char}
    (h : readNamedClass text = some (item, rest)) :
    ∃ negated cls, item = .named cls negated ∧
      text = NamedClass.written negated cls ++ ']' :: rest := by
  unfold readNamedClass at h
  split at h
  · next after =>
      split at h
      next negated inner hstart =>
        split at h
        · next name tail hspan =>
            obtain ⟨cls, hcls, hread⟩ := Option.map_eq_some_iff.1 h
            obtain ⟨rfl, rfl⟩ := Prod.mk.inj hread
            rw [List.span_eq_takeWhile_dropWhile] at hspan
            obtain ⟨hname, htail⟩ := Prod.mk.inj hspan
            have hinner := List.takeWhile_append_dropWhile (p := (· != ':')) (l := inner)
            rw [hname, htail, NamedClass.eq_of_ofName? hcls] at hinner
            refine ⟨negated, cls, rfl, ?_⟩
            split at hstart
            · obtain ⟨rfl, rfl⟩ := Prod.mk.inj hstart
              simp [NamedClass.written, ← hinner]
            · obtain ⟨rfl, rfl⟩ := Prod.mk.inj hstart
              simp [NamedClass.written, ← hinner]
        · cases h
  · cases h

theorem readNamedClass_written (negated : Bool) (cls : NamedClass) (rest : List Char) :
    readNamedClass (NamedClass.written negated cls ++ ']' :: rest) =
      some (.named cls negated, rest) := by
  cases negated <;> cases cls <;> rfl

/-- What comes before a closing bracket begins with a named class or not, whatever follows. -/
theorem readNamedClass_none_local (h : readNamedClass (t ++ ']' :: x) = none) (x' : List Char) :
    readNamedClass (t ++ ']' :: x') = none := by
  cases h' : readNamedClass (t ++ ']' :: x') with
  | none => rfl
  | some read =>
      obtain ⟨negated, cls, -, htext⟩ := eq_written_of_readNamedClass h'
      have written (rest : List Char) (ht : t ++ ']' :: x = NamedClass.written negated cls ++
          ']' :: rest) : False := by
        rw [ht, readNamedClass_written] at h
        cases h
      rcases List.append_eq_append_iff.1 htext with ⟨more, hwritten, hback⟩ | ⟨more, rfl, hback⟩
      · cases more with
        | nil => exact (written x (by rw [hwritten, List.append_nil])).elim
        | cons c more =>
            obtain ⟨rfl, -⟩ := List.cons.inj hback
            exact absurd (hwritten ▸ by simp) (NamedClass.notMem_written negated cls)
      · cases more with
        | nil => exact (written x (by simp)).elim
        | cons c more =>
            obtain ⟨rfl, -⟩ := List.cons.inj hback
            exact (written (more ++ ']' :: x) (by simp)).elim

theorem readNamedClass_some_local {item : ClassTree}
    (h : readNamedClass (t ++ x) = some (item, w ++ x)) (x' : List Char) :
    readNamedClass (t ++ x') = some (item, w ++ x') := by
  obtain ⟨negated, cls, rfl, htext⟩ := eq_written_of_readNamedClass h
  have ht : t = NamedClass.written negated cls ++ ']' :: w :=
    List.append_cancel_right (by simpa using htext)
  simpa [ht] using readNamedClass_written negated cls (w ++ x')

/-! ## The start of a class -/

theorem readLeadingHyphens_stay {steps : Nat} {items : List ClassTree} (x : List Char)
    (ht : ∀ t', t ≠ '-' :: t') :
    readLeadingHyphens verbose steps items (t ++ ']' :: x) = (items, t ++ ']' :: x) := by
  rw [readLeadingHyphens.eq_def]
  split
  · next inner heq =>
      cases t with
      | nil => simp at heq
      | cons c t => exact absurd (by rw [(List.cons.inj heq).1]) (ht t)
  · rfl

theorem readLeadingHyphens_local {steps steps' : Nat} {items items' : List ClassTree}
    (hsteps : t.length ≤ steps) (hsteps' : t.length ≤ steps')
    (h : readLeadingHyphens verbose steps items (t ++ ']' :: x) = (items', w ++ ']' :: x)) :
    readLeadingHyphens verbose steps' items (t ++ ']' :: x') = (items', w ++ ']' :: x') := by
  induction steps generalizing steps' items t with
  | zero =>
      obtain rfl : t = [] := List.length_eq_zero_iff.1 (by omega)
      rw [readLeadingHyphens_stay x (by simp)] at h
      obtain ⟨rfl, hw⟩ := Prod.mk.inj h
      rw [readLeadingHyphens_stay x' (by simp), List.append_cancel_right hw]
  | succ steps ih =>
      by_cases ht : ∃ t', t = '-' :: t'
      · obtain ⟨t, rfl⟩ := ht
        rw [List.length_cons] at hsteps hsteps'
        obtain ⟨more, rfl⟩ : ∃ more, steps' = more + 1 := ⟨steps' - 1, by omega⟩
        simp only [List.cons_append, readLeadingHyphens] at h ⊢
        obtain ⟨m, hm, hm', -⟩ := exists_front_skipBlank (.bracket : Alike verbose _ (']' :: x'))
          ⟨_, (readLeadingHyphens_suffix h).choose_spec⟩
        have hlen := length_skipBlank_le verbose (t ++ ']' :: x)
        rw [hm, List.length_append, List.length_append] at hlen
        rw [hm] at h
        rw [hm']
        exact ih (by omega) (by omega) h
      · have ht' : ∀ t', t ≠ '-' :: t' := fun t' heq => ht ⟨t', heq⟩
        rw [readLeadingHyphens_stay x ht'] at h
        obtain ⟨rfl, hw⟩ := Prod.mk.inj h
        rw [readLeadingHyphens_stay x' ht', List.append_cancel_right hw]

def readCaret (verbose : Bool) : List Char → Bool × List Char
  | '^' :: rest => (true, skipBlank verbose rest)
  | text => (false, text)

/-- A closing bracket before any member stands for itself. -/
def readFirstBracket (verbose negated : Bool) (items : List ClassTree) (text : List Char) :
    Except Fault (Bool × List ClassTree × List Char) :=
  match items, text with
  | _, [] => .error .classNotClosed
  | [], ']' :: rest =>
      let rest := skipBlank verbose rest
      if rest.isEmpty then .error .classNotClosed
      else .ok (negated, [.char ']' false], rest)
  | items, text => .ok (negated, items, text)

theorem readClassStart_eq (verbose : Bool) (text : List Char) :
    readClassStart verbose text =
      readFirstBracket verbose (readCaret verbose (skipBlank verbose text)).1
        (readLeadingHyphens verbose (readCaret verbose (skipBlank verbose text)).2.length []
          (readCaret verbose (skipBlank verbose text)).2).1
        (readLeadingHyphens verbose (readCaret verbose (skipBlank verbose text)).2.length []
          (readCaret verbose (skipBlank verbose text)).2).2 := rfl

theorem readCaret_suffix (verbose : Bool) (text : List Char) :
    (readCaret verbose text).2 <:+ text := by
  unfold readCaret
  split
  · exact (skipBlank_suffix verbose _).trans (List.suffix_cons _ _)
  · exact List.suffix_refl _

theorem readCaret_local {negated : Bool}
    (h : readCaret verbose (t ++ ']' :: x) = (negated, w ++ ']' :: x)) :
    readCaret verbose (t ++ ']' :: x') = (negated, w ++ ']' :: x') := by
  by_cases ht : ∃ t', t = '^' :: t'
  · obtain ⟨t, rfl⟩ := ht
    obtain ⟨rfl, hw⟩ := Prod.mk.inj h
    exact Prod.ext rfl (skipBlank_local .bracket hw)
  · have stay (x : List Char) : readCaret verbose (t ++ ']' :: x) = (false, t ++ ']' :: x) := by
      cases t with
      | nil => rfl
      | cons c t =>
          rw [readCaret.eq_def]
          split
          · next heq => exact absurd ⟨t, by rw [(List.cons.inj heq).1]⟩ ht
          · rfl
    rw [stay] at h
    obtain ⟨rfl, hw⟩ := Prod.mk.inj h
    rw [stay, List.append_cancel_right hw]

theorem readFirstBracket_suffix {negated negated' : Bool} {items items' : List ClassTree}
    {text rest : List Char}
    (h : readFirstBracket verbose negated items text = .ok (negated', items', rest)) :
    rest <:+ text := by
  unfold readFirstBracket at h
  split at h
  · cases h
  · next after =>
      dsimp only at h
      split at h
      · cases h
      · cases h
        exact (skipBlank_suffix verbose after).trans (List.suffix_cons _ _)
  · cases h
    exact List.suffix_refl _

theorem readFirstBracket_local {negated negated' : Bool} {items items' : List ClassTree}
    (h : readFirstBracket verbose negated items (t ++ ']' :: x) =
      .ok (negated', items', w ++ ']' :: x)) :
    readFirstBracket verbose negated items (t ++ ']' :: x') =
      .ok (negated', items', w ++ ']' :: x') := by
  by_cases hfirst : items = [] ∧ ∃ t', t = ']' :: t'
  · obtain ⟨rfl, t, rfl⟩ := hfirst
    simp only [List.cons_append, readFirstBracket] at h ⊢
    split at h
    · cases h
    · obtain ⟨rfl, hread⟩ := Prod.mk.inj (Except.ok.inj h)
      obtain ⟨rfl, hw⟩ := Prod.mk.inj hread
      rw [skipBlank_local .bracket hw, if_neg (by simp)]
  · have stay {x : List Char} (hx : items ≠ [] ∨ t ≠ []) :
        readFirstBracket verbose negated items (t ++ ']' :: x) =
          .ok (negated, items, t ++ ']' :: x) := by
      unfold readFirstBracket
      split
      · next heq => simp at heq
      · next heq =>
          cases t with
          | nil => simp at hx
          | cons c t => exact absurd ⟨rfl, t, by rw [(List.cons.inj heq).1]⟩ hfirst
      · rfl
    have hx : items ≠ [] ∨ t ≠ [] := by
      by_contra hempty
      simp only [not_or, ne_eq, not_not] at hempty
      obtain ⟨rfl, rfl⟩ := hempty
      have hrest := readFirstBracket_suffix h
      simp only [List.nil_append, readFirstBracket] at h
      split at h
      · cases h
      · obtain ⟨-, h⟩ := Prod.mk.inj (Except.ok.inj h)
        exact not_suffix_tail ((Prod.mk.inj h).2 ▸ skipBlank_suffix verbose x)
    rw [stay hx] at h
    obtain ⟨rfl, hread⟩ := Prod.mk.inj (Except.ok.inj h)
    obtain ⟨rfl, hw⟩ := Prod.mk.inj hread
    rw [stay hx, List.append_cancel_right hw]

theorem readClassStart_local {negated : Bool} {items : List ClassTree}
    (h : readClassStart verbose (t ++ ']' :: x) = .ok (negated, items, w ++ ']' :: x))
    (x' : List Char) :
    readClassStart verbose (t ++ ']' :: x') = .ok (negated, items, w ++ ']' :: x') := by
  rw [readClassStart_eq] at h ⊢
  cases hcaret : readCaret verbose (skipBlank verbose (t ++ ']' :: x)) with
  | mk caret inner =>
      rw [hcaret] at h
      cases hhyphens : readLeadingHyphens verbose inner.length [] inner with
      | mk hyphens back =>
          rw [hhyphens] at h
          have hback := readFirstBracket_suffix h
          have hinner := hback.trans (readLeadingHyphens_suffix hhyphens)
          have hblank : inner <:+ skipBlank verbose (t ++ ']' :: x) := by
            simpa [hcaret] using readCaret_suffix verbose (skipBlank verbose (t ++ ']' :: x))
          obtain ⟨m, hm, hm', -⟩ := exists_front_skipBlank (.bracket : Alike verbose _ (']' :: x'))
            (hinner.trans hblank)
          rw [hm] at hblank hcaret
          obtain ⟨m₁, rfl, -⟩ := exists_front_of_suffix hblank hinner
          obtain ⟨m₂, rfl, -⟩ :=
            exists_front_of_suffix (readLeadingHyphens_suffix hhyphens) hback
          have hlen (x : List Char) : m₁.length ≤ (m₁ ++ ']' :: x).length := by simp
          simp only [hm', readCaret_local hcaret,
            readLeadingHyphens_local (hlen x) (hlen x') hhyphens]
          exact readFirstBracket_local h

/-! ## Members -/

theorem peekPastBlank_local (verbose : Bool) (t x x' : List Char) :
    peekPastBlank verbose (t ++ ']' :: x) = peekPastBlank verbose (t ++ ']' :: x') := by
  have hbracket : isWhite ']' = false := by decide
  have drop (t x : List Char) :
      (t ++ ']' :: x).dropWhile isWhite = t.dropWhile isWhite ++ ']' :: x := by
    rw [List.dropWhile_append]
    split
    · next h => simp [List.isEmpty_iff.1 h, hbracket]
    · rfl
  have head (t : List Char) : (t ++ ']' :: x).head? = (t ++ ']' :: x').head? := by
    cases t <;> rfl
  unfold peekPastBlank
  cases verbose with
  | false => exact head t
  | true =>
      simp only [if_true, drop]
      generalize t.dropWhile isWhite = s
      cases s with
      | nil => rfl
      | cons c s =>
          by_cases hc : c = '#'
          · subst hc
            simp only [List.cons_append, drop]
            exact head _
          · simp [hc]

theorem readClassAtom_local {atom : Atom} (hatom : ∀ kind, atom ≠ .assertion kind)
    (h : readClassAtom verbose (t ++ ']' :: x) = .ok (atom, w ++ ']' :: x)) :
    readClassAtom verbose (t ++ ']' :: x') = .ok (atom, w ++ ']' :: x') := by
  cases t with
  | nil =>
      have hlen := readClassAtom_shorter h
      simp only [List.nil_append, List.length_append] at hlen
      omega
  | cons c t =>
      by_cases hc : c = '\\'
      · subst hc
        exact readEscape_local .bracket (fun heq => absurd heq (hatom _)) h
      · have plain (x : List Char) :
            readClassAtom verbose (c :: t ++ x) = .ok (.char c false, t ++ x) := by
          rw [List.cons_append, readClassAtom.eq_def]
          split
          · next heq => cases heq
          · next heq => exact absurd (List.cons.inj heq).1 hc
          · next heq =>
              cases heq
              rfl
        rw [plain] at h
        obtain ⟨rfl, hw⟩ := Prod.mk.inj (Except.ok.inj h)
        rw [plain, List.append_cancel_right hw]

theorem ne_assertion_of_asClassItem {atom : Atom} {item : ClassTree}
    (h : atom.asClassItem = .ok item) (kind : Assertion) : atom ≠ .assertion kind := by
  rintro rfl
  cases h

theorem ne_assertion_of_rangeItem {low high : Atom} {item : ClassTree}
    (h : rangeItem low high = .ok item) (kind : Assertion) :
    low ≠ .assertion kind ∧ high ≠ .assertion kind := by
  constructor
  · rintro rfl
    cases h
  · rintro rfl
    cases low <;> cases h

theorem readClassItem_local {item : ClassTree}
    (h : readClassItem verbose (t ++ ']' :: x) = .ok (item, w ++ ']' :: x)) (x' : List Char) :
    readClassItem verbose (t ++ ']' :: x') = .ok (item, w ++ ']' :: x') := by
  rw [readClassItem_iff] at h ⊢
  cases h with
  | single hlow hitem hblank _ hpeek =>
      obtain ⟨m, rfl, -⟩ := exists_front_of_suffix (readClassAtom_suffix hlow)
        (hblank ▸ skipBlank_suffix verbose _)
      refine .single (readClassAtom_local (ne_assertion_of_asClassItem hitem) hlow) hitem
        (skipBlank_local .bracket hblank) (by simp) fun inner' heq => ?_
      cases w with
      | nil => simp at heq
      | cons c w =>
          obtain ⟨rfl, hinner⟩ := List.cons.inj heq
          have hlook := peekPastBlank_local verbose w x' x
          rw [← hinner, List.append_eq, hlook]
          exact hpeek _ rfl
  | range hlow hhyphen hclose hdifference hblank hhigh hitem =>
      have hback := hblank ▸ readClassAtom_suffix hhigh
      have hinner := hback.trans (skipBlank_suffix verbose _)
      obtain ⟨m, rfl, -⟩ := exists_front_of_suffix (readClassAtom_suffix hlow)
        ((hinner.trans (List.suffix_cons '-' _)).trans (hhyphen ▸ skipBlank_suffix verbose _))
      obtain ⟨m₁, rfl, hhyphen', -⟩ :=
        exists_front_behind (.bracket : Alike verbose _ (']' :: x')) hhyphen hinner
      obtain ⟨m₂, hm₂, hm₂', -⟩ :=
        exists_front_skipBlank (.bracket : Alike verbose _ (']' :: x')) hback
      obtain ⟨hne, hne'⟩ := forall_and.1 (ne_assertion_of_rangeItem hitem)
      rw [peekPastBlank_local verbose m₁ x x'] at hclose hdifference
      rw [← hblank, hm₂] at hhigh
      cases m₂ with
      | nil =>
          have hlen := readClassAtom_shorter hhigh
          simp only [List.nil_append, List.length_append] at hlen
          omega
      | cons d m₂ =>
          exact .range (readClassAtom_local hne hlow) hhyphen' hclose hdifference hm₂'
            (readClassAtom_local (t := d :: m₂) hne' hhigh) hitem

/-! ## Classes -/

/-- An item does not begin with a sign, whatever stands behind the class. -/
theorem beginsItem_local (h : BeginsItem (t ++ ']' :: x)) (x' : List Char) :
    BeginsItem (t ++ ']' :: x') := by
  cases t with
  | nil => exact absurd rfl (h.bracket ']' (by decide))
  | cons c t =>
      refine ⟨by simp, h.bracket, fun sign op hsign hbegins => h.operator sign op hsign ?_⟩
      cases t <;> simpa using hbegins

theorem classRun_local {tree : Tree} {place : ClassPlace}
    (h : ClassRun verbose tree x place (t ++ ']' :: x)) (x' : List Char) :
    ClassRun verbose tree x' place (t ++ ']' :: x') := by
  have behind {t inner after : List Char} {place : ClassPlace} (taken : List Char)
      (hblank : skipBlank verbose (t ++ ']' :: x) = taken ++ inner) (hafter : after <:+ inner)
      (hrun : ClassRun verbose tree x place after) :
      ∃ m n, inner = m ++ ']' :: x ∧ after = n ++ ']' :: x ∧
        skipBlank verbose (t ++ ']' :: x') = taken ++ (m ++ ']' :: x') := by
    obtain ⟨m, rfl, hblank', -⟩ := exists_front_past (w := []) taken
      (.bracket : Alike verbose _ (']' :: x')) hblank (hrun.suffix.trans hafter)
    obtain ⟨n, rfl⟩ := exists_front hafter hrun.suffix.length_le
    exact ⟨m, n, rfl, rfl, hblank'⟩
  generalize htext : t ++ ']' :: x = text at h
  induction h generalizing t with
  | named hblank hnamed hrun ih =>
      subst htext
      obtain ⟨m, n, rfl, rfl, hblank'⟩ := behind ['['] hblank (readNamedClass_suffix hnamed) hrun
      exact .named hblank' (readNamedClass_some_local hnamed (']' :: x')) (ih rfl)
  | enter hblank hnamed hdepth hstart hrun ih =>
      subst htext
      obtain ⟨m, n, rfl, rfl, hblank'⟩ := behind ['['] hblank (readClassStart_suffix hstart) hrun
      exact .enter hblank' (readNamedClass_none_local hnamed x') hdepth
        (readClassStart_local hstart x') (ih rfl)
  | leave hblank houter hrun ih =>
      subst htext
      obtain ⟨m, n, rfl, hsame, hblank'⟩ := behind [']'] hblank (List.suffix_refl _) hrun
      obtain rfl := List.append_cancel_right hsame
      exact .leave hblank' houter (ih rfl)
  | finish hblank houter htree =>
      subst htext
      exact .finish (skipBlank_local (w := []) .bracket hblank) houter htree
  | operator hblank hsign hrun ih =>
      subst htext
      obtain ⟨m, n, rfl, hsame, hblank'⟩ := behind [_, _] hblank (List.suffix_refl _) hrun
      obtain rfl := List.append_cancel_right hsame
      exact .operator hblank' hsign (ih rfl)
  | item hbegins hitem hrun ih =>
      subst htext
      have hafter := readClassItem_suffix hitem
      obtain ⟨m, hm, hm', -⟩ := exists_front_skipBlank (w := [])
        (.bracket : Alike verbose _ (']' :: x')) (hrun.suffix.trans hafter)
      obtain ⟨n, rfl⟩ := exists_front (hm ▸ hafter) hrun.suffix.length_le
      rw [hm] at hbegins hitem
      exact .item (hm' ▸ beginsItem_local hbegins x') (hm' ▸ readClassItem_local hitem x') (ih rfl)

theorem readClass_local {tree : Tree} (h : readClass verbose (t ++ x) = .ok (tree, w ++ x))
    (x' : List Char) : readClass verbose (t ++ x') = .ok (tree, w ++ x') := by
  obtain ⟨⟨front, hfront⟩, -⟩ := readClass_spec h
  have ht : t = front ++ ']' :: w := List.append_cancel_right (by simpa using hfront.symm)
  subst ht
  have closed (x : List Char) : front ++ ']' :: w ++ x = front ++ ']' :: (w ++ x) := by simp
  rw [closed, readClass_iff] at h ⊢
  obtain ⟨negated, items, after, hstart, hrun⟩ := h
  obtain ⟨m, rfl⟩ := exists_front (readClassStart_suffix hstart) hrun.suffix.length_le
  exact ⟨negated, items, _, readClassStart_local hstart (w ++ x'), classRun_local hrun (w ++ x')⟩

end LogPattern.Regex
