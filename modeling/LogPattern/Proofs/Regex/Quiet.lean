import LogPattern.Proofs.Regex.UnitTest

/-!
# Text without brackets

Behind the first character of an escape, between the braces of counts and among flags
there is no backslash, bracket or opening parenthesis: where one stands there, the text is
no expression.  For the name of a property this shows when the name is looked up.
-/

namespace LogPattern

/-- No character that opens or closes anything, and no backslash. -/
def isQuiet (c : Char) : Bool := c != '\\' && c != '[' && c != ']' && c != '('

theorem isQuiet_iff {c : Char} :
    isQuiet c = true ↔ c ≠ '\\' ∧ c ≠ '[' ∧ c ≠ ']' ∧ c ≠ '(' := by
  simp [isQuiet, and_assoc]

theorem isQuiet_eq_false {c : Char} (h : isQuiet c = false) :
    c = '\\' ∨ c = '[' ∨ c = ']' ∨ c = '(' := by
  by_contra hne
  simp only [not_or] at hne
  rw [isQuiet_iff.2 hne] at h
  cases h

/-! ## Names of properties -/

namespace PropertyName

theorem mem_normal {c : Char} {name : List Char} (hc : isQuiet c = false) (h : c ∈ name) :
    c ∈ (normal name).toList := by
  have hkinds : c.toLower = c ∧ c ≠ 'c' ∧ c.toLower ≠ 'i' ∧ c.toLower ≠ 's' ∧
      (c.toNat < 0x80 && c != ' ' && c != '_' && c != '-') = true := by
    rcases isQuiet_eq_false hc with rfl | rfl | rfl | rfl <;> decide
  obtain ⟨hlower, hne, hi, hs, hkeep⟩ := hkinds
  have hrest : c ∈ (dropIs name).1 := by
    unfold dropIs
    split
    · next a b rest =>
        split
        · next his =>
            rw [Bool.and_eq_true, decide_eq_true_iff, decide_eq_true_iff] at his
            rcases List.mem_cons.1 h with rfl | h
            · exact absurd his.1 hi
            · rcases List.mem_cons.1 h with rfl | h
              · exact absurd his.2 hs
              · exact h
        · exact h
    · exact h
  unfold normal
  generalize dropIs name = dropped at hrest ⊢
  obtain ⟨rest, hadIs⟩ := dropped
  have hsmall : c ∈ (String.ofList ((rest.filter fun c =>
      c.toNat < 0x80 && c != ' ' && c != '_' && c != '-').map Char.toLower)).toList := by
    rw [String.toList_ofList, ← hlower]
    exact List.mem_map_of_mem (List.mem_filter.2 ⟨hrest, hkeep⟩)
  dsimp only
  split
  · next his =>
      rw [Bool.and_eq_true, decide_eq_true_iff] at his
      rw [his.2] at hsmall
      exact absurd (List.mem_singleton.1 hsmall) hne
  · exact hsmall

end PropertyName

def quietName (name : String) : Bool := name.toList.all isQuiet

theorem NamedSet.quiet_of_find? {sets : List NamedSet} {name : String} {members : CodeSet}
    (hsets : (sets.all fun set => set.names.all quietName) = true)
    (h : NamedSet.find? sets name = some members) : quietName name = true := by
  obtain ⟨set, hset, -⟩ := Option.map_eq_some_iff.1 h
  have hname := List.find?_some hset
  have hquiet := List.all_eq_true.1 hsets set (List.mem_of_find?_eq_some hset)
  exact List.all_eq_true.1 hquiet name (by simpa using hname)

theorem quiet_scripts : (scripts.all fun set => set.names.all quietName) = true := by
  decide +kernel

theorem quiet_binaryProperties :
    (binaryProperties.all fun set => set.names.all quietName) = true := by
  decide +kernel

namespace Category

theorem quiet_of_named? {name : String} {category : Category} (h : named? name = some category) :
    quietName name = true := by
  have hnames (category : Category) :
      (quietName category.letters && category.longNames.all quietName) = true := by
    cases category <;> decide +kernel
  obtain ⟨hletters, hlong⟩ := Bool.and_eq_true_iff.1 (hnames category)
  have hname := List.find?_some h
  rw [Bool.and_eq_true, Bool.or_eq_true, decide_eq_true_iff] at hname
  rcases hname.2 with hname | hname
  · rwa [← of_decide_eq_true hname]
  · exact List.all_eq_true.1 hlong name (by simpa using hname)

theorem quiet_of_membersNamed? {name : String} {members : CodeSet}
    (h : membersNamed? name = some members) : quietName name = true := by
  have hgroups : (groupNames.all fun entry => quietName entry.1) = true := by decide +kernel
  unfold membersNamed? at h
  split at h
  · next hnamed => exact quiet_of_named? hnamed
  · split at h
    · next letter hgroup =>
        obtain ⟨front, back, hsplit, -⟩ := List.lookup_eq_some_iff.1 hgroup
        exact List.all_eq_true.1 hgroups (name, letter) (by rw [hsplit]; simp)
    · split at h
      · next hname =>
          rw [Bool.or_eq_true, decide_eq_true_iff, decide_eq_true_iff] at hname
          rcases hname with rfl | rfl <;> decide +kernel
      · split at h
        · next hname =>
            subst hname
            decide +kernel
        · split at h
          · next hname =>
              subst hname
              decide +kernel
          · split at h
            · next hname =>
                subst hname
                decide +kernel
            · cases h

end Category

/-- A text is quiet if the normal form of it is. -/
theorem quiet_of_normal {name : List Char} (h : quietName (PropertyName.normal name) = true) :
    name.all isQuiet = true := by
  rw [List.all_eq_true]
  intro c hc
  by_contra hloud
  have hmem := PropertyName.mem_normal (Bool.eq_false_iff.2 hloud) hc
  exact hloud (List.all_eq_true.1 h c hmem)

theorem quiet_of_membersNamed? {name : List Char} (h : (membersNamed? name).isSome = true) :
    name.all isQuiet = true := by
  refine quiet_of_normal ?_
  obtain ⟨members, hmembers⟩ := Option.isSome_iff_exists.1 h
  unfold membersNamed? at hmembers
  dsimp only at hmembers
  split at hmembers
  · cases hcategory : Category.membersNamed? (PropertyName.normal name) with
    | some found => exact Category.quiet_of_membersNamed? hcategory
    | none =>
        rw [hcategory] at hmembers
        exact NamedSet.quiet_of_find? quiet_scripts hmembers
  · cases hproperty : NamedSet.find? binaryProperties (PropertyName.normal name) with
    | some found => exact NamedSet.quiet_of_find? quiet_binaryProperties hproperty
    | none =>
        rw [hproperty] at hmembers
        cases hcategory : Category.membersNamed? (PropertyName.normal name) with
        | some found => exact Category.quiet_of_membersNamed? hcategory
        | none =>
            rw [hcategory] at hmembers
            exact NamedSet.quiet_of_find? quiet_scripts hmembers

theorem quiet_of_membersValued? {property value : List Char}
    (h : (membersValued? property value).isSome = true) :
    property.all isQuiet = true ∧ value.all isQuiet = true := by
  obtain ⟨members, hmembers⟩ := Option.isSome_iff_exists.1 h
  unfold membersValued? at hmembers
  dsimp only at hmembers
  split at hmembers
  · next hname =>
      refine ⟨quiet_of_normal ?_, quiet_of_normal (Category.quiet_of_membersNamed? hmembers)⟩
      rw [Bool.or_eq_true, decide_eq_true_iff, decide_eq_true_iff] at hname
      rcases hname with hname | hname <;> rw [hname] <;> decide +kernel
  · split at hmembers
    · next hname =>
        refine ⟨quiet_of_normal ?_,
          quiet_of_normal (NamedSet.quiet_of_find? quiet_scripts hmembers)⟩
        rw [Bool.or_eq_true, decide_eq_true_iff, decide_eq_true_iff] at hname
        rcases hname with hname | hname <;> rw [hname] <;> decide +kernel
    · cases hmembers

namespace Regex

/-- A property that can be looked up has no bracket between its braces. -/
theorem quiet_of_propertyQuery {name : List Char}
    (h : (propertyQuery name).1.members?.isSome = true) : name.all isQuiet = true := by
  have valued {mark property value : List Char} (hmark : mark.all isQuiet = true)
      (hsplit : splitAtMark mark name = some (property, value))
      (h : (membersValued? property value).isSome = true) : name.all isQuiet = true := by
    obtain ⟨hproperty, hvalue⟩ := quiet_of_membersValued? h
    rw [← splitAtMark_eq_append hsplit, List.all_append, List.all_append, hproperty, hmark, hvalue]
    rfl
  unfold propertyQuery at h
  split at h
  · next hsplit => exact valued (by decide) hsplit h
  · split at h
    · next hsplit => exact valued (by decide) hsplit h
    · split at h
      · next hsplit => exact valued (by decide) hsplit h
      · exact quiet_of_membersNamed? h

/-! ## Passing quiet text -/

def Quietly (text rest : List Char) : Prop :=
  ∃ front, text = front ++ rest ∧ front.all isQuiet = true

variable {text rest back : List Char}

namespace Quietly

theorem refl (text : List Char) : Quietly text text := ⟨[], rfl, rfl⟩

theorem trans (h : Quietly text rest) (h' : Quietly rest back) : Quietly text back := by
  obtain ⟨front, rfl, hfront⟩ := h
  obtain ⟨more, rfl, hmore⟩ := h'
  exact ⟨front ++ more, by simp, by rw [List.all_append, hfront, hmore]; rfl⟩

theorem cons {c : Char} (hc : isQuiet c = true) (h : Quietly text rest) :
    Quietly (c :: text) rest := by
  obtain ⟨front, rfl, hfront⟩ := h
  exact ⟨c :: front, rfl, by rw [List.all_cons, hc, hfront]; rfl⟩

end Quietly

theorem isQuiet_of {p : Char → Bool} (hp : ['\\', '[', ']', '('].all (fun c => !p c) = true)
    {c : Char} (hc : p c = true) : isQuiet c = true := by
  by_contra hloud
  have hmem : c ∈ ['\\', '[', ']', '('] := by
    simpa using isQuiet_eq_false (Bool.eq_false_iff.2 hloud)
  have hnot := List.all_eq_true.1 hp c hmem
  rw [hc] at hnot
  cases hnot

theorem eq_of_takeToBrace {taken name : List Char}
    (h : takeToBrace false false taken text = some (name, rest)) :
    ∃ more, name = taken.reverse ++ more ∧ text = more ++ '}' :: rest := by
  induction text generalizing taken with
  | nil => cases h
  | cons c text ih =>
      simp only [takeToBrace, Bool.false_eq_true, if_false, Bool.false_and] at h
      split at h
      · next hc =>
          subst hc
          obtain ⟨rfl, rfl⟩ := Prod.mk.inj (Option.some.inj h)
          exact ⟨[], by simp, rfl⟩
      · obtain ⟨more, rfl, rfl⟩ := ih h
        exact ⟨c :: more, by simp, rfl⟩

theorem quietly_takeToBrace {name : List Char}
    (h : takeToBrace false false [] text = some (name, rest)) (hname : name.all isQuiet = true) :
    Quietly text rest := by
  obtain ⟨more, hmore, rfl⟩ := eq_of_takeToBrace h
  rw [List.reverse_nil, List.nil_append] at hmore
  subst hmore
  exact ⟨name ++ ['}'], by simp, by rw [List.all_append, hname]; decide⟩

/-! ## Escapes -/

theorem isQuiet_of_hexValue? {c : Char} (h : (hexValue? c).isSome = true) : isQuiet c = true :=
  isQuiet_of (p := fun c => (hexValue? c).isSome) (by decide) h

theorem quiet_of_digitsValue? {digits : List Char} {value : Nat}
    (h : digitsValue? 16 digits = some value) : digits.all isQuiet = true := by
  have hfrom {digits : List Char} {start value : Nat}
      (h : digitsValueFrom? 16 start digits = some value) : digits.all isQuiet = true := by
    induction digits generalizing start with
    | nil => rfl
    | cons c digits ih =>
        rw [digitsValueFrom?] at h
        split at h
        · next digit hdigit =>
            have hvalue := (Option.filter_eq_some_iff.1 hdigit).1
            rw [List.all_cons, isQuiet_of_hexValue? (Option.isSome_of_eq_some hvalue), ih h]
            rfl
        · cases h
  unfold digitsValue? at h
  split at h
  · cases h
  · exact hfrom h

theorem quietly_readFixedHex {count value code : Nat}
    (h : readFixedHex false count value text = .ok (code, rest)) : Quietly text rest := by
  induction count generalizing value text with
  | zero =>
      cases h
      exact .refl _
  | succ count ih =>
      cases text with
      | nil => cases h
      | cons c text =>
          rw [readFixedHex] at h
          split at h
          · cases h
          · next hdigit =>
              exact (ih h).cons (isQuiet_of_hexValue? (Option.isSome_of_eq_some hdigit))

theorem quietly_readHex {count : Nat} {atom : Atom}
    (h : readHex false count text = .ok (atom, rest)) : Quietly text rest := by
  rw [readHex, skipBlank_false] at h
  split at h
  · split at h
    · cases h
    · next digits after htake =>
        split at h
        · cases h
        · next c hc =>
            obtain ⟨-, rfl⟩ := Prod.mk.inj (Except.ok.inj h)
            obtain ⟨value, hvalue, -⟩ := Option.bind_eq_some_iff.1 hc
            exact (quietly_takeToBrace htake (quiet_of_digitsValue? hvalue)).cons (by decide)
  · split at h
    · cases h
    · next code after hhex =>
        split at h
        · cases h
        · obtain ⟨-, rfl⟩ := Prod.mk.inj (Except.ok.inj h)
          exact quietly_readFixedHex hhex

theorem quietly_readProperty {negated : Bool} {atom : Atom}
    (h : readProperty false negated text = .ok (atom, rest))
    (hknown : UnitTest.knownProperty.atom atom = true) : Quietly text rest := by
  rw [readProperty, skipBlank_false] at h
  split at h
  · cases h
  · split at h
    · cases h
    · next name after htake =>
        obtain ⟨rfl, rfl⟩ := Prod.mk.inj (Except.ok.inj h)
        exact (quietly_takeToBrace htake (quiet_of_propertyQuery hknown)).cons (by decide)
  · cases h
  · next c after _ _ =>
      obtain ⟨rfl, rfl⟩ := Prod.mk.inj (Except.ok.inj h)
      have hc : [c].all isQuiet = true := quiet_of_membersNamed? hknown
      rw [List.all_cons, Bool.and_eq_true] at hc
      exact .cons hc.1 (.refl _)

theorem quietly_readBoundary {atom : Atom} (h : readBoundary false text = .ok (atom, rest)) :
    Quietly text rest := by
  by_cases hbrace : text.head? = some '{'
  · obtain ⟨inner, rfl⟩ := List.head?_eq_some_iff.1 hbrace
    obtain ⟨c, after, hblank, hcases⟩ := readBoundary_brace h
    rw [skipBlank_false] at hblank
    subst hblank
    obtain ⟨-, name, kind, hkind, -, htake⟩ | ⟨-, -, rfl⟩ := hcases
    · refine (quietly_takeToBrace htake ?_).cons (by decide)
      unfold boundaryNamed? at hkind
      split at hkind
      · next hname => rw [hname]; decide
      · split at hkind
        · next hname => rw [hname]; decide
        · split at hkind
          · next hname => rw [hname]; decide
          · split at hkind
            · next hname => rw [hname]; decide
            · cases hkind
    · exact .refl _
  · rw [readBoundary_of_head?_ne hbrace] at h
    obtain ⟨-, rfl⟩ := Prod.mk.inj (Except.ok.inj h)
    exact .refl _

/-- Behind a backslash only the next character may open or close something. -/
theorem quietly_readEscape {c : Char} {atom : Atom}
    (h : readEscape false (c :: text) = .ok (atom, rest))
    (hknown : UnitTest.knownProperty.atom atom = true) : Quietly text rest := by
  have same {kind : Atom} (h : (.ok (kind, text) : Except Fault (Atom × List Char)) =
      .ok (atom, rest)) : Quietly text rest := by
    obtain ⟨-, rfl⟩ := Prod.mk.inj (Except.ok.inj h)
    exact .refl _
  rw [readEscape.eq_def] at h
  simp only at h
  split at h
  case h_1 => exact quietly_readHex h
  case h_2 => exact quietly_readHex h
  case h_3 => exact quietly_readHex h
  case h_4 => exact quietly_readProperty h hknown
  case h_5 => exact quietly_readProperty h hknown
  case h_20 => exact quietly_readBoundary h
  case h_24 =>
    split at h
    · exact same h
    · cases h
  all_goals exact same h

/-! ## Flags and counts -/

theorem quietly_readFlags {negated afterHyphen : Bool} {change change' : FlagChange} {stop : Char}
    (h : readFlags negated afterHyphen change text = .ok (change', stop, rest)) :
    Quietly text rest := by
  induction text generalizing negated afterHyphen change with
  | nil => cases h
  | cons c text ih =>
      rw [readFlags] at h
      split at h
      · next hstop =>
          split at h
          · cases h
          · obtain ⟨-, hread⟩ := Prod.mk.inj (Except.ok.inj h)
            obtain ⟨-, rfl⟩ := Prod.mk.inj hread
            refine .cons ?_ (.refl _)
            rcases hstop with rfl | rfl <;> decide
      · split at h
        · next hminus =>
            split at h
            · cases h
            · subst hminus
              exact (ih h).cons (by decide)
        · split at h
          · cases h
          · next flag hflag =>
              split at h
              · cases h
              · exact (ih h).cons (isQuiet_of (p := fun c => (flagOfLetter? c).isSome) (by decide)
                  (Option.isSome_of_eq_some hflag))

theorem quietly_dropWhile {p : Char → Bool}
    (hp : ['\\', '[', ']', '('].all (fun c => !p c) = true) (text : List Char) :
    Quietly text (text.dropWhile p) :=
  ⟨text.takeWhile p, (List.takeWhile_append_dropWhile).symm,
    List.all_eq_true.2 fun _ hc => isQuiet_of hp (List.mem_takeWhile_imp hc)⟩

theorem quietly_readCountFrom {value value' : Option Nat}
    (h : readCountFrom false false value text = (value', rest)) : Quietly text rest := by
  induction text generalizing value with
  | nil =>
      cases h
      exact .refl _
  | cons c text ih =>
      simp only [readCountFrom, Bool.false_eq_true, if_false, Bool.false_and] at h
      split at h
      · next hdigit => exact (ih h).cons (isQuiet_of (by decide) hdigit)
      · obtain ⟨-, rfl⟩ := Prod.mk.inj h
        exact .refl _

theorem quietly_readCount {value : Nat} (h : readCount false text = .ok (value, rest)) :
    Quietly text rest := by
  have hwhite : ['\\', '[', ']', '('].all (fun c => !isWhite c) = true := by decide
  unfold readCount at h
  split at h
  · cases h
  · next after hcount =>
      split at h
      · obtain ⟨-, rfl⟩ := Prod.mk.inj (Except.ok.inj h)
        exact ((quietly_dropWhile hwhite text).trans (quietly_readCountFrom hcount)).trans
          (quietly_dropWhile hwhite after)
      · cases h

theorem quietly_readCounts {counts : Counts} (h : readCounts false text = .ok (counts, rest)) :
    Quietly text rest := by
  have comma {inner : List Char} : Quietly (',' :: inner) inner := .cons (by decide) (.refl _)
  have brace {inner : List Char} : Quietly ('}' :: inner) inner := .cons (by decide) (.refl _)
  cases readCounts_iff.1 h with
  | exactly hleast => exact (quietly_readCount hleast).trans brace
  | atLeast hleast hclose =>
      rw [skipBlank_false] at hclose
      subst hclose
      exact ((quietly_readCount hleast).trans comma).trans brace
  | between hleast _ hmost _ =>
      exact (((quietly_readCount hleast).trans comma).trans (quietly_readCount hmost)).trans brace

theorem quietly_readLazy {greedy : Bool} {text rest : List Char}
    (h : readLazy text = (greedy, rest)) : Quietly text rest := by
  unfold readLazy at h
  split at h
  · cases h
    exact .cons (by decide) (.refl _)
  · cases h
    exact .refl _

end Regex

end LogPattern
