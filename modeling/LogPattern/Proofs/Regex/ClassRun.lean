import LogPattern.Proofs.Regex.Remainder

/-!
# Runs inside classes

Inside a class every step takes an item, an operator or a bracket.  The reader of classes
is opened here only: what its steps preserve is preserved up to the end of the class,
however many steps it is given.
-/

namespace LogPattern.Regex

variable {verbose : Bool} {text rest : List Char}

/-! ## Items -/

theorem readClassAtom_shorter {atom : Atom} (h : readClassAtom verbose text = .ok (atom, rest)) :
    rest.length < text.length := by
  unfold readClassAtom at h
  split at h
  · cases h
  · exact Nat.lt_succ_of_le (readEscape_suffix h).length_le
  · cases h
    exact Nat.lt_succ_self _

inductive ItemRead (verbose : Bool) (text rest : List Char) : ClassTree → Prop
  /-- A hyphen behind it begins no range: it ends the class or belongs to a difference. -/
  | single {low : Atom} {item : ClassTree} {after : List Char}
      (hlow : readClassAtom verbose text = .ok (low, after)) (hitem : low.asClassItem = .ok item)
      (hblank : skipBlank verbose after = rest) (hne : rest ≠ [])
      (hpeek : ∀ inner, rest = '-' :: inner →
        peekPastBlank verbose inner = some ']' ∨ peekPastBlank verbose inner = some '-') :
      ItemRead verbose text rest item
  | range {low high : Atom} {item : ClassTree} {c : Char} {after inner back : List Char}
      (hlow : readClassAtom verbose text = .ok (low, after))
      (hhyphen : skipBlank verbose after = '-' :: inner)
      (hclose : peekPastBlank verbose inner ≠ some ']')
      (hdifference : peekPastBlank verbose inner ≠ some '-')
      (hblank : skipBlank verbose inner = c :: back)
      (hhigh : readClassAtom verbose (c :: back) = .ok (high, rest))
      (hitem : rangeItem low high = .ok item) : ItemRead verbose text rest item

theorem readClassItem_iff {item : ClassTree} :
    readClassItem verbose text = .ok (item, rest) ↔ ItemRead verbose text rest item := by
  constructor
  · intro h
    obtain ⟨⟨low, after⟩, hlow, h⟩ := except_bind_eq_ok h
    dsimp only at h
    split at h
    · cases h
    · next inner htext =>
        split at h
        · next hpeek =>
            obtain ⟨_, hitem, h⟩ := except_bind_eq_ok h
            cases h
            refine .single hlow hitem htext (by simp) fun _ heq => ?_
            cases heq
            exact .inl hpeek
        · next hpeek =>
            obtain ⟨_, hitem, h⟩ := except_bind_eq_ok h
            cases h
            refine .single hlow hitem htext (by simp) fun _ heq => ?_
            cases heq
            exact .inr hpeek
        · next hclose hdifference =>
            split at h
            · cases h
            · next afterBlank hne =>
                obtain ⟨⟨high, _⟩, hhigh, h⟩ := except_bind_eq_ok h
                obtain ⟨_, hitem, h⟩ := except_bind_eq_ok h
                cases h
                obtain ⟨c, back, hblank⟩ := List.exists_cons_of_ne_nil hne
                rw [hblank] at hhigh
                exact .range hlow htext hclose hdifference hblank hhigh hitem
    · next hnil hhyphen =>
        obtain ⟨_, hitem, h⟩ := except_bind_eq_ok h
        cases h
        exact .single hlow hitem rfl hnil fun inner heq => absurd heq (hhyphen inner)
  · intro h
    unfold readClassItem
    cases h with
    | single hlow hitem hblank hne hpeek =>
        simp only [hlow, bind, Except.bind, hblank]
        split
        · contradiction
        · next inner =>
            rcases hpeek inner rfl with hpeek | hpeek <;> simp [hpeek, hitem, pure, Except.pure]
        · simp [hitem, pure, Except.pure]
    | range hlow hhyphen hclose hdifference hblank hhigh hitem =>
        simp only [hlow, bind, Except.bind, hhyphen, hblank, hhigh, hitem]
        rfl

theorem readClassItem_suffix {item : ClassTree}
    (h : readClassItem verbose text = .ok (item, rest)) : rest <:+ text := by
  cases readClassItem_iff.1 h with
  | single hlow _ hblank _ _ =>
      exact (hblank ▸ skipBlank_suffix verbose _).trans (readClassAtom_suffix hlow)
  | range hlow hhyphen _ _ hblank hhigh _ =>
      have hback := hblank ▸ readClassAtom_suffix hhigh
      have hinner := (hback.trans (skipBlank_suffix verbose _)).trans (List.suffix_cons '-' _)
      exact ((hhyphen ▸ hinner).trans (skipBlank_suffix verbose _)).trans (readClassAtom_suffix hlow)

theorem readClassItem_shorter {item : ClassTree}
    (h : readClassItem verbose text = .ok (item, rest)) : rest.length < text.length := by
  cases readClassItem_iff.1 h with
  | @single _ _ after hlow _ hblank _ _ =>
      have hafter := hblank ▸ length_skipBlank_le verbose after
      have hshorter := readClassAtom_shorter hlow
      omega
  | @range _ _ _ _ after inner _ hlow hhyphen _ _ hblank hhigh _ =>
      have hafter := hhyphen ▸ length_skipBlank_le verbose after
      have hinner := hblank ▸ length_skipBlank_le verbose inner
      have hshorter := readClassAtom_shorter hlow
      have hback := readClassAtom_shorter hhigh
      rw [List.length_cons] at hafter
      omega

/-! ## Places -/

/--
A place inside classes: the innermost class, those around it, its items since the last
operator, last first, and that operator with its left operand.
-/
structure ClassPlace where
  current : OpenClass
  outer : List OpenClass
  items : List ClassTree
  pending : Option (ClassOperator × ClassTree)

namespace ClassPlace

def content (place : ClassPlace) : ClassTree :=
  ClassTree.combine place.pending (ClassTree.ofItems place.items)

def first (negated : Bool) (items : List ClassTree) : ClassPlace :=
  ⟨⟨negated, [], none⟩, [], items, none⟩

def add (place : ClassPlace) (item : ClassTree) : ClassPlace :=
  { place with items := item :: place.items }

def operate (place : ClassPlace) (op : ClassOperator) : ClassPlace :=
  { place with items := [], pending := some (op, place.content) }

def enter (place : ClassPlace) (negated : Bool) (items : List ClassTree) : ClassPlace :=
  ⟨⟨negated, place.items, place.pending⟩, place.current :: place.outer, items, none⟩

def leave (place : ClassPlace) (next : OpenClass) (outer : List OpenClass) : ClassPlace :=
  ⟨next, outer, .bracketed place.current.negated place.content :: place.current.outerItems,
    place.current.outerPending⟩

end ClassPlace

/-! ## Runs -/

/-- The operator that a sign is when it comes twice. -/
def ClassOperator.ofSign? : Char → Option ClassOperator
  | '&' => some .intersection
  | '-' => some .difference
  | '~' => some .symmetricDifference
  | _ => none

/-- A text that goes on with an item: with no bracket, no operator, and not at its end. -/
structure BeginsItem (text : List Char) : Prop where
  ne_nil : text ≠ []
  bracket : ∀ c ∈ ['[', ']'], text.head? ≠ some c
  operator : ∀ sign op, ClassOperator.ofSign? sign = some op → ¬ [sign, sign] <+: text

/-- From a place and a text the reader gets to the end of the outermost class: `tree` has been
read, and `rest` is left. -/
inductive ClassRun (verbose : Bool) (tree : Tree) (rest : List Char) :
    ClassPlace → List Char → Prop
  | named {place : ClassPlace} {text inner after : List Char} {item : ClassTree}
      (hblank : skipBlank verbose text = '[' :: inner)
      (hnamed : readNamedClass inner = some (item, after))
      (hrun : ClassRun verbose tree rest (place.add item) after) :
      ClassRun verbose tree rest place text
  | enter {place : ClassPlace} {text inner after : List Char} {negated : Bool}
      {items : List ClassTree} (hblank : skipBlank verbose text = '[' :: inner)
      (hnamed : readNamedClass inner = none) (hdepth : place.outer.length < nestLimit)
      (hstart : readClassStart verbose inner = .ok (negated, items, after))
      (hrun : ClassRun verbose tree rest (place.enter negated items) after) :
      ClassRun verbose tree rest place text
  | leave {place : ClassPlace} {text after : List Char} {next : OpenClass}
      {outer : List OpenClass} (hblank : skipBlank verbose text = ']' :: after)
      (houter : place.outer = next :: outer)
      (hrun : ClassRun verbose tree rest (place.leave next outer) after) :
      ClassRun verbose tree rest place text
  | finish {place : ClassPlace} {text : List Char} (hblank : skipBlank verbose text = ']' :: rest)
      (houter : place.outer = []) (htree : tree = .bracketed place.current.negated place.content) :
      ClassRun verbose tree rest place text
  | operator {place : ClassPlace} {text after : List Char} {sign : Char} {op : ClassOperator}
      (hblank : skipBlank verbose text = sign :: sign :: after)
      (hsign : ClassOperator.ofSign? sign = some op)
      (hrun : ClassRun verbose tree rest (place.operate op) after) :
      ClassRun verbose tree rest place text
  | item {place : ClassPlace} {text after : List Char} {item : ClassTree}
      (hbegins : BeginsItem (skipBlank verbose text))
      (hitem : readClassItem verbose (skipBlank verbose text) = .ok (item, after))
      (hrun : ClassRun verbose tree rest (place.add item) after) :
      ClassRun verbose tree rest place text

namespace ClassRun

variable {tree : Tree} {place : ClassPlace}

theorem of_readClassFrom {steps : Nat}
    (h : readClassFrom verbose steps place.current place.outer place.items place.pending text =
      .ok (tree, rest)) : ClassRun verbose tree rest place text := by
  induction steps generalizing place text with
  | zero => cases h
  | succ steps ih =>
      rw [readClassFrom.eq_def] at h
      dsimp only at h
      split at h
      · cases h
      · next inner hblank =>
          split at h
          · next hnamed => exact .named hblank hnamed (ih h)
          · next hnamed =>
              split at h
              · cases h
              · next hdepth =>
                  split at h
                  · cases h
                  · next hstart => exact .enter hblank hnamed (Nat.lt_of_not_le hdepth) hstart (ih h)
      · next inner hblank =>
          split at h
          · next houter =>
              obtain ⟨rfl, rfl⟩ := Prod.mk.inj (Except.ok.inj h)
              exact .finish hblank houter rfl
          · next houter => exact .leave hblank houter (ih h)
      · next hblank => exact .operator hblank rfl (ih h)
      · next hblank => exact .operator hblank rfl (ih h)
      · next hblank => exact .operator hblank rfl (ih h)
      · next hnil hopen hclose hand hminus htilde =>
          split at h
          · cases h
          · next hitem =>
              refine .item ⟨hnil, fun c hc hhead => ?_, fun sign op hsign hbegins => ?_⟩ hitem (ih h)
              · obtain ⟨tail, htail⟩ := List.head?_eq_some_iff.1 hhead
                simp only [List.mem_cons, List.not_mem_nil, or_false] at hc
                rcases hc with rfl | rfl
                · exact hopen tail htail
                · exact hclose tail htail
              · obtain ⟨tail, htail⟩ := hbegins
                unfold ClassOperator.ofSign? at hsign
                split at hsign
                · exact hand tail htail.symm
                · exact hminus tail htail.symm
                · exact htilde tail htail.symm
                · cases hsign

/-- There are steps enough if there are more than characters. -/
theorem readClassFrom_eq (h : ClassRun verbose tree rest place text) {steps : Nat}
    (hsteps : text.length < steps) :
    readClassFrom verbose steps place.current place.outer place.items place.pending text =
      .ok (tree, rest) := by
  have fewer {text inner after : List Char} {c : Char} {steps : Nat}
      (hblank : skipBlank verbose text = c :: inner) (hafter : after.length ≤ inner.length)
      (hsteps : text.length < steps + 1) : after.length < steps := by
    have hlen := hblank ▸ length_skipBlank_le verbose text
    rw [List.length_cons] at hlen
    omega
  induction h generalizing steps
  all_goals
    obtain ⟨steps, rfl⟩ : ∃ more, steps = more + 1 := ⟨steps - 1, by omega⟩
    rw [readClassFrom.eq_def]
  case named hblank hnamed _ ih =>
    simp only [hblank, hnamed]
    exact ih (fewer hblank (readNamedClass_suffix hnamed).length_le hsteps)
  case enter hblank hnamed hdepth hstart _ ih =>
    simp only [hblank, hnamed, if_neg (Nat.not_le_of_lt hdepth), hstart]
    exact ih (fewer hblank (readClassStart_suffix hstart).length_le hsteps)
  case leave hblank houter _ ih =>
    simp only [hblank, houter]
    exact ih (fewer hblank (Nat.le_refl _) hsteps)
  case finish hblank houter htree =>
    rw [htree]
    simp only [hblank, houter]
    rfl
  case operator hblank hsign _ ih =>
    have hrest := ih (fewer hblank (Nat.le_succ _) hsteps)
    unfold ClassOperator.ofSign? at hsign
    split at hsign <;> cases hsign <;> simp only [hblank] <;> exact hrest
  case item text _ _ hbegins hitem _ ih =>
    have hlen := readClassItem_shorter hitem
    have hblank := length_skipBlank_le verbose text
    dsimp only
    split
    · next heq => exact absurd heq hbegins.ne_nil
    · next heq => exact absurd (by rw [heq]; rfl) (hbegins.bracket '[' (by decide))
    · next heq => exact absurd (by rw [heq]; rfl) (hbegins.bracket ']' (by decide))
    · next heq => exact absurd ⟨_, heq.symm⟩ (hbegins.operator '&' _ rfl)
    · next heq => exact absurd ⟨_, heq.symm⟩ (hbegins.operator '-' _ rfl)
    · next heq => exact absurd ⟨_, heq.symm⟩ (hbegins.operator '~' _ rfl)
    · simp only [hitem]
      exact ih (by omega)

theorem suffix (h : ClassRun verbose tree rest place text) : ']' :: rest <:+ text := by
  have behind {text inner after : List Char} (taken : List Char)
      (hblank : skipBlank verbose text = taken ++ inner) (hafter : after <:+ inner)
      (hrest : ']' :: rest <:+ after) : ']' :: rest <:+ text :=
    ((hrest.trans hafter).trans (List.suffix_append taken inner)).trans
      (hblank ▸ skipBlank_suffix verbose text)
  induction h with
  | named hblank hnamed _ ih => exact behind ['['] hblank (readNamedClass_suffix hnamed) ih
  | enter hblank _ _ hstart _ ih => exact behind ['['] hblank (readClassStart_suffix hstart) ih
  | leave hblank _ _ ih => exact behind [']'] hblank (List.suffix_refl _) ih
  | finish hblank _ _ => exact hblank ▸ skipBlank_suffix verbose _
  | operator hblank _ _ ih => exact behind [_, _] hblank (List.suffix_refl _) ih
  | item _ hitem _ ih => exact behind [] rfl (readClassItem_suffix hitem) ih

theorem tree_eq (h : ClassRun verbose tree rest place text) :
    ∃ negated inner, tree = .bracketed negated inner := by
  induction h with
  | finish _ _ htree => exact ⟨_, _, htree⟩
  | named _ _ _ ih => exact ih
  | enter _ _ _ _ _ ih => exact ih
  | leave _ _ _ ih => exact ih
  | operator _ _ _ ih => exact ih
  | item _ _ _ ih => exact ih

end ClassRun

theorem readClass_iff {tree : Tree} :
    readClass verbose text = .ok (tree, rest) ↔ ∃ negated items after,
      readClassStart verbose text = .ok (negated, items, after) ∧
        ClassRun verbose tree rest (.first negated items) after := by
  unfold readClass
  constructor
  · intro h
    split at h
    · cases h
    · next hstart => exact ⟨_, _, _, hstart, .of_readClassFrom h⟩
  · rintro ⟨negated, items, after, hstart, hrun⟩
    simp only [hstart]
    exact hrun.readClassFrom_eq (Nat.lt_succ_self _)

/-- A class ends with its closing bracket, and its tree is a class. -/
theorem readClass_spec {tree : Tree} (h : readClass verbose text = .ok (tree, rest)) :
    ']' :: rest <:+ text ∧ ∃ negated inner, tree = .bracketed negated inner := by
  obtain ⟨negated, items, after, hstart, hrun⟩ := readClass_iff.1 h
  exact ⟨hrun.suffix.trans (readClassStart_suffix hstart), hrun.tree_eq⟩

end LogPattern.Regex
