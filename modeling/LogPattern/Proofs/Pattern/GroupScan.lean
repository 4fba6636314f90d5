import LogPattern.Pattern.Group
import LogPattern.Proofs.Regex.Quiet

/-!
# Scanning parts for groups

The scan for capturing groups goes through a fragment character by character, the reader
part by part.  Outside verbose mode they agree on every part: the scan copies it, and is
outside classes again behind it.  The exception is a range that ends in an opening
bracket, where the scan sees a nested class.
-/

namespace LogPattern

open Regex

/-- No flags switch verbose mode on, and no range ends in an opening bracket. -/
def Regex.UnitTest.plain : UnitTest where
  change change := change.value? .verbose != some true
  atom _ := true
  item
    | .range _ _ high _ => high != '['
    | _ => true

/-! ## Copying -/

def ScanState.scan (state : ScanState) (text : List Char) : List Char :=
  neutralizeFrom state false [] text

theorem neutralizeFrom_eq (state : ScanState) (inName : Bool) (done text : List Char) :
    neutralizeFrom state inName done text =
      done.reverse ++ neutralizeFrom state inName [] text := by
  induction text generalizing state inName done with
  | nil => simp [neutralizeFrom]
  | cons c text ih =>
      rw [neutralizeFrom, neutralizeFrom]
      split
      · exact ih _ _ _
      · split
        · cases openerKind text with
          | bare =>
              dsimp only
              rw [ih _ false (plainOpenerReversed ++ done), ih _ false (plainOpenerReversed ++ [])]
              simp
          | named =>
              dsimp only
              rw [ih _ true (plainOpenerReversed ++ done), ih _ true (plainOpenerReversed ++ [])]
              simp
          | plain =>
              dsimp only
              rw [ih _ false (c :: done), ih _ false [c]]
              simp
        · rw [ih _ false (c :: done), ih _ false [c]]
          simp

namespace ScanState

/-- The scan copies a text up to `rest`, and goes on there in another state. -/
def Copies (state state' : ScanState) (text rest : List Char) : Prop :=
  ∃ front, text = front ++ rest ∧ state.scan text = front ++ state'.scan rest

variable {state state' state'' : ScanState} {text rest back : List Char} {depth ahead : Nat}

namespace Copies

theorem refl (state : ScanState) (text : List Char) : Copies state state text text := ⟨[], rfl, rfl⟩

theorem trans (h : Copies state state' text rest) (h' : Copies state' state'' rest back) :
    Copies state state'' text back := by
  obtain ⟨front, rfl, hscan⟩ := h
  obtain ⟨more, rfl, hmore⟩ := h'
  exact ⟨front ++ more, by simp, by rw [hscan, hmore, List.append_assoc]⟩

theorem char {c : Char} (h : state.opensGroup c = false) (rest : List Char) :
    Copies state (state.next c rest) (c :: rest) rest := by
  refine ⟨[c], rfl, ?_⟩
  rw [scan, neutralizeFrom]
  simp only [h, Bool.false_eq_true, if_false]
  exact neutralizeFrom_eq _ _ _ _

end Copies

/-- The state inside so many brackets, so far ahead of the start of the innermost class. -/
def inBrackets (depth ahead : Nat) : ScanState := ⟨false, depth, ahead⟩

theorem copies_plain (depth ahead : Nat) {c : Char} (hslash : c ≠ '\\') (hopen : c ≠ '[')
    (hclose : c = ']' → depth = 0 ∨ ahead = 1) (hparen : c = '(' → depth ≠ 0) (rest : List Char) :
    Copies (inBrackets depth ahead) (inBrackets depth (ahead - 1)) (c :: rest) rest := by
  have hgroup : (inBrackets depth ahead).opensGroup c = false := by
    by_cases hc : c = '('
    · simp [opensGroup, inBrackets, hparen hc]
    · simp [opensGroup, hc]
  have hnext : (inBrackets depth ahead).next c rest = inBrackets depth (ahead - 1) := by
    unfold next
    rw [if_neg (by simp [inBrackets]), if_neg hslash, if_neg hopen]
    split
    · next hends =>
        obtain ⟨hc, hdepth, hstart⟩ := hends
        rcases hclose hc with rfl | rfl
        · cases hdepth
        · cases hstart
    · rfl
  rw [← hnext]
  exact .char hgroup rest

theorem copies_quiet (depth ahead : Nat) {front : List Char} (h : front.all isQuiet = true)
    (rest : List Char) :
    Copies (inBrackets depth ahead) (inBrackets depth (ahead - front.length)) (front ++ rest)
      rest := by
  induction front generalizing ahead with
  | nil => exact .refl _ _
  | cons c front ih =>
      rw [List.all_cons, Bool.and_eq_true] at h
      obtain ⟨hslash, hopen, hclose, hparen⟩ := isQuiet_iff.1 h.1
      have hfirst := copies_plain depth ahead hslash hopen
        (fun heq => absurd heq hclose) (fun heq => absurd heq hparen) (front ++ rest)
      have hrest := hfirst.trans (ih _ h.2)
      rwa [Nat.sub_sub, Nat.add_comm] at hrest

theorem copies_escape (depth ahead : Nat) (c : Char) (rest : List Char) :
    Copies (inBrackets depth ahead) (inBrackets depth (ahead - 2)) ('\\' :: c :: rest) rest := by
  have hslash : (inBrackets depth ahead).opensGroup '\\' = false := rfl
  have hescaped : (⟨true, depth, ahead - 1⟩ : ScanState).opensGroup c = false := by
    simp [opensGroup]
  have hlast := Copies.char hescaped rest
  exact (Copies.char hslash (c :: rest)).trans hlast

theorem copies_opening (depth ahead : Nat) (rest : List Char) :
    Copies (inBrackets depth ahead)
      (inBrackets (depth + 1) (if rest.head? = some '^' then 2 else 1)) ('[' :: rest) rest :=
  .char rfl rest

theorem copies_closing (depth : Nat) {ahead : Nat} (hahead : ahead ≠ 1) (rest : List Char) :
    Copies (inBrackets (depth + 1) ahead) (inBrackets depth (ahead - 1)) (']' :: rest) rest := by
  have hnext : (inBrackets (depth + 1) ahead).next ']' rest = inBrackets depth (ahead - 1) := by
    have hends : ']' = ']' ∧ (inBrackets (depth + 1) ahead).classDepth > 0 ∧
        (!(inBrackets (depth + 1) ahead).atClassStart) = true :=
      ⟨rfl, Nat.succ_pos depth, by simp [atClassStart, inBrackets, hahead]⟩
    unfold next
    rw [if_neg (by simp [inBrackets]), if_neg (by decide), if_neg (by decide)]
    exact if_pos hends
  rw [← hnext]
  exact .char rfl rest

/-! ## Classes -/

/-- A closing bracket here ends the class, and there is none if the class has just begun. -/
def AtItem (ahead : Nat) (text : List Char) : Prop :=
  ahead = 0 ∨ (ahead = 1 ∧ text.head? ≠ some ']')

theorem AtItem.le {ahead : Nat} {text : List Char} (h : AtItem ahead text) : ahead ≤ 1 := by
  rcases h with rfl | ⟨rfl, -⟩ <;> decide

theorem copies_namedClass (depth ahead : Nat) {item : ClassTree}
    (h : readNamedClass text = some (item, rest)) :
    Copies (inBrackets (depth + 1) ahead) (inBrackets (depth + 1) 0) ('[' :: text) rest := by
  obtain ⟨negated, cls, -, rfl⟩ := eq_written_of_readNamedClass h
  have hquiet : (NamedClass.written negated cls).all isQuiet = true ∧
      2 ≤ (NamedClass.written negated cls).length := by
    cases negated <;> cases cls <;> decide
  obtain ⟨hquiet, hlength⟩ := hquiet
  have hopen : Copies (inBrackets (depth + 1) ahead) (inBrackets (depth + 2) 1) _ _ :=
    copies_opening _ _ (NamedClass.written negated cls ++ ']' :: rest)
  have hname : Copies (inBrackets (depth + 2) 1)
      (inBrackets (depth + 2) (1 - (NamedClass.written negated cls).length)) _ _ :=
    copies_quiet _ _ hquiet (']' :: rest)
  rw [Nat.sub_eq_zero_of_le (by omega)] at hname
  exact (hopen.trans hname).trans (copies_closing _ (by decide) rest)

theorem eq_of_readLeadingHyphens {steps : Nat} {items items' : List ClassTree}
    (h : readLeadingHyphens false steps items text = (items', rest)) :
    ∃ count, text = List.replicate count '-' ++ rest ∧
      ((count = 0 ∧ items' = items) ∨ (count ≠ 0 ∧ items' ≠ [])) := by
  induction steps generalizing items text with
  | zero =>
      obtain ⟨rfl, rfl⟩ := Prod.mk.inj h
      exact ⟨0, rfl, .inl ⟨rfl, rfl⟩⟩
  | succ steps ih =>
      by_cases hhyphen : ∃ inner, text = '-' :: inner
      · obtain ⟨inner, rfl⟩ := hhyphen
        rw [readLeadingHyphens, skipBlank_false] at h
        obtain ⟨count, rfl, hitems⟩ := ih h
        refine ⟨count + 1, by rw [List.replicate_succ, List.cons_append], .inr ⟨by omega, ?_⟩⟩
        rcases hitems with ⟨-, rfl⟩ | ⟨-, hne⟩
        · simp
        · exact hne
      · rw [readLeadingHyphens] at h
        · obtain ⟨rfl, rfl⟩ := Prod.mk.inj h
          exact ⟨0, rfl, .inl ⟨rfl, rfl⟩⟩
        · exact fun _ inner _ heq => hhyphen ⟨inner, heq⟩

theorem copies_classStart (depth : Nat) {negated : Bool} {items : List ClassTree}
    (h : readClassStart false text = .ok (negated, items, rest)) :
    ∃ ahead, AtItem ahead rest ∧
      Copies (inBrackets (depth + 1) (if text.head? = some '^' then 2 else 1))
        (inBrackets (depth + 1) ahead) text rest := by
  rw [readClassStart_eq, skipBlank_false] at h
  obtain ⟨inner, hinner, hcaret⟩ : ∃ inner, (readCaret false text).2 = inner ∧
      Copies (inBrackets (depth + 1) (if text.head? = some '^' then 2 else 1))
        (inBrackets (depth + 1) 1) text inner := by
    unfold readCaret
    split
    · exact ⟨_, rfl, copies_plain _ _ (by decide) (by decide) (by simp) (by simp) _⟩
    · next hplain =>
        refine ⟨text, rfl, ?_⟩
        rw [if_neg fun hhead => ?_]
        · exact .refl _ _
        · obtain ⟨tail, htail⟩ := List.head?_eq_some_iff.1 hhead
          exact hplain tail htail
  rw [hinner] at h
  cases hhyphens : readLeadingHyphens false inner.length [] inner with
  | mk hyphens back =>
      rw [hhyphens] at h
      dsimp only at h
      obtain ⟨count, rfl, hcount⟩ := eq_of_readLeadingHyphens hhyphens
      have hquiet : (List.replicate count '-').all isQuiet = true := by
        rw [List.all_replicate]
        split <;> decide
      have hback := hcaret.trans (copies_quiet _ _ hquiet back)
      rw [List.length_replicate] at hback
      unfold readFirstBracket at h
      split at h
      · cases h
      · dsimp only at h
        split at h
        · cases h
        · obtain ⟨-, hread⟩ := Prod.mk.inj (Except.ok.inj h)
          obtain ⟨-, rfl⟩ := Prod.mk.inj hread
          obtain ⟨rfl, -⟩ := hcount.resolve_right (by simp)
          exact ⟨0, .inl rfl, hback.trans
            (copies_plain _ _ (by decide) (by decide) (fun _ => .inr rfl) (by simp) _)⟩
      · next hfirst =>
          obtain ⟨-, hread⟩ := Prod.mk.inj (Except.ok.inj h)
          obtain ⟨-, rfl⟩ := Prod.mk.inj hread
          refine ⟨1 - count, ?_, hback⟩
          rcases hcount with ⟨rfl, rfl⟩ | ⟨hcount, -⟩
          · refine .inr ⟨rfl, fun hhead => ?_⟩
            obtain ⟨tail, htail⟩ := List.head?_eq_some_iff.1 hhead
            exact hfirst tail rfl htail
          · exact .inl (by omega)

theorem copies_classAtom (depth : Nat) {atom : Atom}
    (h : readClassAtom false text = .ok (atom, rest))
    (hknown : UnitTest.knownProperty.atom atom = true) (hopen : text.head? ≠ some '[')
    (hclose : text.head? ≠ some ']') (hahead : ahead ≤ 1) :
    Copies (inBrackets (depth + 1) ahead) (inBrackets (depth + 1) 0) text rest := by
  have hzero (taken : Nat) (htaken : 0 < taken) : ahead - taken = 0 := by omega
  rw [readClassAtom.eq_def] at h
  split at h
  · cases h
  · next inner =>
      cases inner with
      | nil => cases h
      | cons c inner =>
          obtain ⟨front, rfl, hquiet⟩ := quietly_readEscape h hknown
          have hescape := copies_escape (depth + 1) ahead c (front ++ rest)
          have hrest := hescape.trans (copies_quiet _ _ hquiet rest)
          rwa [Nat.sub_sub, hzero _ (by omega)] at hrest
  · next c inner hslash =>
      obtain ⟨-, rfl⟩ := Prod.mk.inj (Except.ok.inj h)
      have hplain := copies_plain (depth + 1) ahead hslash
        (by simpa using hopen) (fun hc => absurd (by simp [hc]) hclose) (by simp) inner
      rwa [hzero 1 (by omega)] at hplain

theorem known_of_asClassItem {atom : Atom} {item : ClassTree} (h : atom.asClassItem = .ok item)
    (hitem : item.passes .knownProperty = true) : UnitTest.knownProperty.atom atom = true := by
  cases atom with
  | property query negated =>
      cases h
      exact hitem
  | _ => rfl

theorem chars_of_rangeItem {low high : Atom} {item : ClassTree}
    (h : rangeItem low high = .ok item) :
    ∃ c lowAsByte d highAsByte, low = .char c lowAsByte ∧ high = .char d highAsByte ∧
      item = .range c lowAsByte d highAsByte := by
  unfold rangeItem at h
  split at h
  · split at h
    · cases h
      exact ⟨_, _, _, _, rfl, rfl, rfl⟩
    · cases h
  · cases h

theorem copies_classItem (depth : Nat) {item : ClassTree}
    (h : readClassItem false text = .ok (item, rest))
    (hknown : item.passes .knownProperty = true) (hplain : item.passes .plain = true)
    (hopen : text.head? ≠ some '[') (hclose : text.head? ≠ some ']') (hahead : ahead ≤ 1) :
    Copies (inBrackets (depth + 1) ahead) (inBrackets (depth + 1) 0) text rest := by
  cases readClassItem_iff.1 h with
  | single hlow hitem hrest _ _ =>
      rw [skipBlank_false] at hrest
      subst hrest
      exact copies_classAtom depth hlow (known_of_asClassItem hitem hknown) hopen hclose hahead
  | @range _ _ _ c _ _ back hlow hhyphen hnotClose _ hblank hhigh hitem =>
      rw [skipBlank_false] at hhyphen hblank
      subst hhyphen hblank
      obtain ⟨a, aAsByte, b, bAsByte, rfl, rfl, rfl⟩ := chars_of_rangeItem hitem
      have hbracket : (c :: back).head? ≠ some '[' := by
        intro hhead
        cases hhead
        -- the range would end in the bracket
        cases hhigh
        cases hplain
      have hfirst := copies_classAtom depth hlow rfl hopen hclose hahead
      have hhyphen : Copies (inBrackets (depth + 1) 0) (inBrackets (depth + 1) (0 - 1))
          ('-' :: c :: back) (c :: back) :=
        copies_plain _ _ (by decide) (by decide) (by simp) (by simp) _
      exact (hfirst.trans hhyphen).trans
        (copies_classAtom depth hhigh rfl hbracket (by simpa [peekPastBlank] using hnotClose)
          (by decide))

/-- Inside a class the scan keeps count of the open classes. -/
theorem copies_classRun {place : ClassPlace} {tree : Tree}
    (h : ClassRun false tree rest place text) (hknown : tree.passes .knownProperty = true)
    (hplain : tree.passes .plain = true) (hahead : AtItem ahead text) :
    Copies (inBrackets (place.outer.length + 1) ahead) (inBrackets 0 0) text rest := by
  induction h generalizing ahead with
  | named hblank hnamed _ ih =>
      rw [skipBlank_false] at hblank
      subst hblank
      exact (copies_namedClass _ _ hnamed).trans (ih (.inl rfl))
  | @enter place _ inner _ _ _ hblank _ _ hstart _ ih =>
      rw [skipBlank_false] at hblank
      subst hblank
      obtain ⟨_, hitem, hinner⟩ := copies_classStart (place.outer.length + 1) hstart
      exact ((copies_opening _ _ inner).trans hinner).trans (ih hitem)
  | @leave _ _ after _ _ hblank houter _ ih =>
      rw [skipBlank_false] at hblank
      subst hblank
      obtain rfl : ahead = 0 := hahead.resolve_right fun hstart => hstart.2 rfl
      rw [houter]
      exact (copies_closing _ (by decide) after).trans (ih (.inl rfl))
  | finish hblank houter _ =>
      rw [skipBlank_false] at hblank
      subst hblank
      obtain rfl : ahead = 0 := hahead.resolve_right fun hstart => hstart.2 rfl
      rw [houter]
      exact copies_closing 0 (by decide) _
  | @operator place _ after sign _ hblank hsign _ ih =>
      rw [skipBlank_false] at hblank
      subst hblank
      have hquiet : [sign, sign].all isQuiet = true := by
        unfold ClassOperator.ofSign? at hsign
        split at hsign <;> first | rfl | cases hsign
      have hsigns := copies_quiet (place.outer.length + 1) ahead hquiet after
      have hle := hahead.le
      rw [List.length_cons, List.length_singleton, Nat.sub_eq_zero_of_le (by omega)] at hsigns
      exact hsigns.trans (ih (.inl rfl))
  | @item place _ _ item hbegins hitem hrun ih =>
      rw [skipBlank_false] at hbegins hitem
      have hadded {test : UnitTest} (h : tree.passes test = true) : item.passes test = true :=
        (hrun.passes h).items item List.mem_cons_self
      exact (copies_classItem place.outer.length hitem (hadded hknown) (hadded hplain)
        (hbegins.bracket '[' (by decide)) (hbegins.bracket ']' (by decide)) hahead.le).trans
          (ih (.inl rfl))

theorem copies_class {tree : Tree} (h : readClass false text = .ok (tree, rest))
    (hknown : tree.passes .knownProperty = true) (hplain : tree.passes .plain = true) :
    Copies (inBrackets 0 ahead) (inBrackets 0 0) ('[' :: text) rest := by
  obtain ⟨_, _, _, hstart, hrun⟩ := readClass_iff.1 h
  obtain ⟨_, hitem, hinner⟩ := copies_classStart 0 hstart
  exact ((copies_opening _ _ text).trans hinner).trans (copies_classRun hrun hknown hplain hitem)

/-! ## Parts -/

theorem neutralizeFrom_name {name : List Char} (h : '>' ∉ name) (state : ScanState)
    (done rest : List Char) :
    neutralizeFrom state true done (name ++ '>' :: rest) =
      neutralizeFrom state false done rest := by
  induction name with
  | nil => simp [neutralizeFrom]
  | cons c name ih =>
      simp only [List.mem_cons, not_or] at h
      rw [List.cons_append, neutralizeFrom, if_pos rfl, bne_iff_ne.2 (Ne.symm h.1)]
      exact ih h.2

theorem openerKind_angle (hequals : text.head? ≠ some '=') (hbang : text.head? ≠ some '!') :
    openerKind ('?' :: '<' :: text) = if text.contains '>' then .named else .plain := by
  unfold openerKind
  split
  · next heq => cases heq
  · next heq =>
      cases heq
      exact absurd rfl hequals
  · next heq =>
      cases heq
      exact absurd rfl hbang
  · next heq =>
      cases heq
      rfl
  · next hangle heq =>
      cases heq
      exact absurd rfl (hangle text)
  · next hquestion => exact absurd rfl (hquestion _)

theorem openerKind_of_flags {change : FlagChange} {stop : Char}
    (h : readFlags false false [] text = .ok (change, stop, rest)) :
    openerKind ('?' :: text) = .plain := by
  have hhead {c : Char} {tail : List Char} (hc : c ∈ ['=', '!', '<', 'P']) : text ≠ c :: tail := by
    rintro rfl
    exact head?_of_readFlags h hc rfl
  unfold openerKind
  split
  · next heq => exact absurd (List.cons.inj heq).2 (hhead (by simp))
  · rfl
  · rfl
  · next heq => exact absurd (List.cons.inj heq).2 (hhead (by simp))
  · rfl
  · next hquestion => exact absurd rfl (hquestion _)

theorem scan_paren (ahead : Nat) (text : List Char) :
    (inBrackets 0 ahead).scan ('(' :: text) =
      match openerKind text with
      | .bare => '(' :: '?' :: ':' :: (inBrackets 0 (ahead - 1)).scan text
      | .named => '(' :: '?' :: ':' :: neutralizeFrom (inBrackets 0 (ahead - 1)) true [] text
      | .plain => '(' :: (inBrackets 0 (ahead - 1)).scan text := by
  have hgroup : (inBrackets 0 ahead).opensGroup '(' = true := rfl
  rw [scan, neutralizeFrom, if_neg (by decide), if_pos hgroup]
  cases openerKind text with
  | bare => exact neutralizeFrom_eq _ _ _ _
  | named => exact neutralizeFrom_eq _ _ _ _
  | plain => exact neutralizeFrom_eq _ _ _ _

theorem copies_plainOpener (ahead : Nat) (h : openerKind text = .plain) :
    Copies (inBrackets 0 ahead) (inBrackets 0 (ahead - 1)) ('(' :: text) text :=
  ⟨['('], rfl, by rw [scan_paren, h]; rfl⟩

/-- The opener of a capturing group is replaced by that of a plain one. -/
theorem scan_capture {name : Option String}
    (h : readGroupAction false text = .ok (.capture name, rest)) (ahead : Nat) :
    (inBrackets 0 ahead).scan ('(' :: text) =
      '(' :: '?' :: ':' :: (inBrackets 0 (ahead - 1)).scan rest := by
  have named {inner : List Char} {groupName : String} (opener : List Char)
      (hname : readGroupName inner = .ok (groupName, rest)) (htext : text = opener ++ inner)
      (hopener : '>' ∉ opener) (hkind : inner.contains '>' = true → openerKind text = .named) :
      (inBrackets 0 ahead).scan ('(' :: text) =
        '(' :: '?' :: ':' :: (inBrackets 0 (ahead - 1)).scan rest := by
    obtain ⟨first, more, rfl, hplain, -⟩ := readGroupName_iff.1 hname
    have hend : '>' ∉ opener ++ (first :: more) := by
      rw [List.mem_append, not_or]
      exact ⟨hopener, fun hmem => hplain '>' hmem rfl⟩
    rw [scan_paren, hkind (by simp)]
    dsimp only
    rw [htext, ← List.append_assoc, neutralizeFrom_name hend]
    rfl
  cases readGroupAction_iff.1 h with
  | @named inner name htext hname =>
      obtain ⟨hequals, hbang⟩ := head?_of_readGroupName hname
      rw [skipBlank_false] at htext
      rcases htext with rfl | rfl
      · refine named ['?', 'P', '<'] hname rfl (by decide) fun hcontains => ?_
        simp only [openerKind, hcontains, if_true]
      · refine named ['?', '<'] hname rfl (by decide) fun hcontains => ?_
        rw [openerKind_angle hequals hbang, if_pos hcontains]
  | bare htext hplain =>
      rw [skipBlank_false] at htext
      subst htext
      have hkind : openerKind text = .bare := by
        unfold openerKind
        split <;> simp_all
      rw [scan_paren, hkind]

theorem copies_quietly (ahead : Nat) (h : Quietly text rest) :
    ∃ ahead', Copies (inBrackets 0 ahead) (inBrackets 0 ahead') text rest := by
  obtain ⟨front, rfl, hquiet⟩ := h
  exact ⟨_, copies_quiet 0 ahead hquiet rest⟩

theorem copies_flags {inner : List Char} {change : FlagChange} {stop : Char}
    (htext : skipBlank false text = '?' :: inner)
    (hflags : readFlags false false [] inner = .ok (change, stop, rest)) (ahead : Nat) :
    ∃ ahead', Copies (inBrackets 0 ahead) (inBrackets 0 ahead') ('(' :: text) rest := by
  rw [skipBlank_false] at htext
  subst htext
  obtain ⟨_, hinner⟩ := copies_quietly (ahead - 1)
    (.cons (by decide) (quietly_readFlags hflags) : Quietly ('?' :: inner) rest)
  exact ⟨_, (copies_plainOpener ahead (openerKind_of_flags hflags)).trans hinner⟩

/-- Outside verbose mode, a part that opens no capturing group is copied. -/
theorem copies_part {c : Char} {action : Action}
    (h : readAction false (c :: text) = .ok (action, rest))
    (hcapture : ∀ name, action ≠ .capture name) (hknown : action.passes .knownProperty = true)
    (hplain : action.passes .plain = true) (ahead : Nat) :
    ∃ ahead', Copies (inBrackets 0 ahead) (inBrackets 0 ahead') (c :: text) rest := by
  have single {sign : Char} (hslash : sign ≠ '\\') (hopen : sign ≠ '[') (hparen : sign ≠ '(')
      (hrest : text = rest) :
      ∃ ahead', Copies (inBrackets 0 ahead) (inBrackets 0 ahead') (sign :: text) rest := by
    subst hrest
    exact ⟨_, copies_plain 0 ahead hslash hopen (fun _ => .inl rfl) (fun hc => absurd hc hparen) _⟩
  cases readAction_iff.1 h with
  | group hgroup =>
      cases readGroupAction_iff.1 hgroup with
      | named _ _ => exact absurd rfl (hcapture _)
      | enter htext hflags => exact copies_flags htext hflags ahead
      | direct htext hflags _ => exact copies_flags htext hflags ahead
      | bare _ _ => exact absurd rfl (hcapture _)
  | leave hrest => exact single (by decide) (by decide) (by decide) hrest
  | branch hrest => exact single (by decide) (by decide) (by decide) hrest
  | bracket hclass _ => exact ⟨0, copies_class hclass hknown hplain⟩
  | again hsign hlazy =>
      have hsigns : ∀ entry ∈ repetitionSigns, isQuiet entry.1 = true := by decide
      exact copies_quietly ahead (.cons (hsigns _ hsign) (quietly_readLazy hlazy))
  | counted hcounts hlazy =>
      rw [skipBlank_false] at hlazy
      exact copies_quietly ahead
        (.cons (by decide) ((quietly_readCounts hcounts).trans (quietly_readLazy hlazy)))
  | escape hescape =>
      cases text with
      | nil => cases hescape
      | cons c inner =>
          obtain ⟨_, hinner⟩ := copies_quietly (ahead - 2) (quietly_readEscape hescape hknown)
          exact ⟨_, (copies_escape 0 ahead c inner).trans hinner⟩
  | atom hc hrest =>
      have hne {sign : Char} (hsign : sign ∈ syntaxSigns) : c ≠ sign := fun heq => hc (heq ▸ hsign)
      exact single (hne (by decide)) (hne (by decide)) (hne (by decide)) hrest

end ScanState

end LogPattern
