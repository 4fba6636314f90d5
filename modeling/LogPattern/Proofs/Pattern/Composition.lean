import LogPattern.Pattern.Compiled
import LogPattern.Proofs.Pattern.PieceRun

/-!
# Composed expressions

Where the text of every token reads as a whole inside its group, the expression of a
pattern text is a sequence: the anchors and characters of its literals, and one group
for every token, in order.
-/

namespace LogPattern

open Regex

/-! ## Literals -/

namespace AnchoredLiteral

def atoms (literal : AnchoredLiteral) : List Atom :=
  (if literal.startAnchor then [.assertion .lineStart] else []) ++
    literal.body.map (Atom.char · false) ++
      match literal.ending with
      | .plain => []
      | .anchor => [.assertion .lineEnd]
      | .dollar => [.char '$' false]

/--
The literal is the text with its anchors told apart: a caret at the start of the first
literal, and at the end of the last one a dollar sign, unless a backslash stands before it.
-/
structure Divides (literal : AnchoredLiteral) (text : List Char) (first last : Bool) : Prop where
  complete :
    (if literal.startAnchor then ['^'] else []) ++ literal.body ++ literal.ending.regexText = text
  start : literal.startAnchor = true ↔ first = true ∧ ['^'] <+: text
  anchor : literal.ending = .anchor ↔ last = true ∧ ['$'] <:+ text ∧ ¬ ['\\', '$'] <:+ text
  dollar : literal.ending = .dollar ↔ last = true ∧ ['\\', '$'] <:+ text

theorem splitEnding_spec (text : List Char) :
    (splitEnding text).1 ++ (splitEnding text).2.regexText = text ∧
      ((splitEnding text).2 = .anchor ↔ ['$'] <:+ text ∧ ¬ ['\\', '$'] <:+ text) ∧
      ((splitEnding text).2 = .dollar ↔ ['\\', '$'] <:+ text) := by
  obtain ⟨reversed, rfl⟩ : ∃ reversed, text = reversed.reverse := ⟨text.reverse, by simp⟩
  have hsuffix (front : List Char) : front.reverse <:+ reversed.reverse ↔ front <+: reversed :=
    List.reverse_suffix
  have hone : ['$'] <:+ reversed.reverse ↔ ['$'] <+: reversed := hsuffix ['$']
  have htwo : ['\\', '$'] <:+ reversed.reverse ↔ ['$', '\\'] <+: reversed := hsuffix ['$', '\\']
  rw [hone, htwo]
  unfold splitEnding
  rw [List.reverse_reverse]
  split
  · simp [Ending.regexText]
  · next body hbody =>
      have hnot : ¬ ['\\'] <+: body := by
        rintro ⟨rest, rfl⟩
        exact hbody rest rfl
      simp [Ending.regexText, hnot]
  · next hbody =>
      have hnot : ¬ ['$'] <+: reversed := by
        rintro ⟨rest, rfl⟩
        exact hbody rest rfl
      have hnot' : ¬ ['$', '\\'] <+: reversed := fun ⟨rest, hrest⟩ =>
        hnot ⟨'\\' :: rest, hrest⟩
      simp [Ending.regexText, hnot, hnot']

theorem suffix_caret_iff {sign : Char} {signs text : List Char} (hsign : sign ≠ '^') :
    sign :: signs <:+ '^' :: text ↔ sign :: signs <:+ text := by
  rw [List.suffix_cons_iff]
  simp [hsign]

theorem ofText_divides (text : List Char) (first last : Bool) :
    (ofText text first last).Divides text first last := by
  unfold ofText
  split
  next startAnchor rest hstart =>
  split
  next body ending hending =>
  have hbody : body ++ ending.regexText = rest ∧
      (ending = .anchor ↔ last = true ∧ ['$'] <:+ rest ∧ ¬ ['\\', '$'] <:+ rest) ∧
      (ending = .dollar ↔ last = true ∧ ['\\', '$'] <:+ rest) := by
    cases last with
    | true =>
        have hspec := splitEnding_spec rest
        rw [show splitEnding rest = (body, ending) from hending] at hspec
        simpa using hspec
    | false =>
        obtain ⟨rfl, rfl⟩ := Prod.mk.inj hending
        simp [Ending.regexText]
  split at hstart
  · next rest' =>
      obtain ⟨rfl, rfl⟩ := Prod.mk.inj hstart
      refine ⟨by simpa using hbody.1, by simp, ?_, ?_⟩
      · rw [suffix_caret_iff (by decide), suffix_caret_iff (by decide)]
        exact hbody.2.1
      · rw [suffix_caret_iff (by decide)]
        exact hbody.2.2
  · next hplain =>
      obtain ⟨rfl, rfl⟩ := Prod.mk.inj hstart
      refine ⟨by simpa using hbody.1, ?_, hbody.2.1, hbody.2.2⟩
      simp only [Bool.false_eq_true, false_iff, not_and]
      rintro rfl ⟨rest, rfl⟩
      exact hplain rest rfl rfl

end AnchoredLiteral

namespace Regex

def Progress.pushAtoms (state : Progress) (atoms : List Atom) : Progress :=
  { state with items := (atoms.map Part.ofAtom).reverse ++ state.items }

theorem Progress.pushAtoms_append (state : Progress) (front back : List Atom) :
    state.pushAtoms (front ++ back) = (state.pushAtoms front).pushAtoms back := by
  simp [pushAtoms]

/-- The text reads as the atoms wherever no blanks are skipped. -/
def ReadsAs (text : List Char) (atoms : List Atom) : Prop :=
  ∀ state : Progress, state.verbose = false → ∀ x,
    state.Reads state.openGroups.length (text ++ x) (state.pushAtoms atoms) x

namespace ReadsAs

theorem nil : ReadsAs [] [] := fun state _ x => .stay state x

theorem append {front back : List Char} {atoms atoms' : List Atom} (h : ReadsAs front atoms)
    (h' : ReadsAs back atoms') : ReadsAs (front ++ back) (atoms ++ atoms') := by
  intro state hverbose x
  rw [Progress.pushAtoms_append, List.append_assoc]
  exact (h state hverbose (back ++ x)).trans (h' (state.pushAtoms atoms) hverbose x)

theorem one {c : Char} {text : List Char} {atom : Atom}
    (h : ∀ x, readAction false (c :: (text ++ x)) = .ok (.push (.ofAtom atom), x)) :
    ReadsAs (c :: text) [atom] := by
  intro state hverbose x
  have hnext : (Action.push (.ofAtom atom)).apply state = .ok (state.push (.ofAtom atom)) := rfl
  have hblank : skipBlank state.verbose (c :: (text ++ x)) = c :: (text ++ x) := by
    rw [hverbose]
    rfl
  exact .part hblank (hverbose ▸ h x) hnext (Nat.le_refl _) (.stay _ _)

end ReadsAs

theorem readEscape_special {c : Char} (hc : specialCharacters.contains c = true) (verbose : Bool)
    (x : List Char) : readEscape verbose (c :: x) = .ok (.char c false, x) := by
  have hmem : c ∈ specialCharacters := by simpa using hc
  simp only [specialCharacters, List.mem_cons, List.not_mem_nil, or_false] at hmem
  rcases hmem with rfl | rfl | rfl | rfl | rfl | rfl | rfl | rfl | rfl | rfl | rfl | rfl | rfl |
    rfl | rfl | rfl | rfl | rfl <;> rfl

theorem readsAs_escapeChar (c : Char) : ReadsAs (escapeChar c) [.char c false] := by
  unfold escapeChar
  split
  · next hc =>
      refine .one fun x => ?_
      simp only [List.singleton_append, readAction, readEscape_special hc]
      rfl
  · next hc =>
      refine .one fun x => readAction_char _ (fun hmem => hc ?_) x
      have hsub : partSigns.all specialCharacters.contains = true := by decide
      exact List.all_eq_true.1 hsub c hmem

theorem readsAs_escapeText (text : List Char) :
    ReadsAs (escapeText text) (text.map (Atom.char · false)) := by
  induction text with
  | nil => exact .nil
  | cons c text ih => exact (readsAs_escapeChar c).append ih

theorem readsAs_literal (literal : AnchoredLiteral) : ReadsAs literal.regexText literal.atoms := by
  refine (ReadsAs.append ?_ (readsAs_escapeText _)).append ?_
  · split
    · exact .one fun x => rfl
    · exact .nil
  · cases literal.ending with
    | plain => exact .nil
    | anchor => exact .one fun x => rfl
    | dollar => exact .one fun x => rfl

end Regex

/-! ## Compositions -/

namespace Expansion

def contentPieces (lookup : Lookup) (depth : Nat) (name : String) : List Piece :=
  (segments ((lookup name).getD "")).flatMap (fragmentPieces (tokenPieces lookup depth))

theorem tokenPieces_succ (lookup : Lookup) (depth : Nat) (token : Token) :
    tokenPieces lookup (depth + 1) token =
      .opener token :: contentPieces lookup depth token.name ++ [.closer] := rfl

def fieldCount (lookup : Lookup) (depth : Nat) (token : Token) : Nat :=
  (Piece.fieldsOf (tokenPieces lookup depth token)).length

end Expansion

/-- The kind of a token's group, behind so many fields and capturing groups. -/
def Token.groupKind (token : Token) (index captures : Nat) : GroupKind :=
  match token.field with
  | none => .plain []
  | some _ => .capture (captures + 1) (some (fieldGroupName index))

open Expansion in
/--
The trees are those of the segments, in order: the atoms of every literal, and for every
token one group.  `content` says what may stand in a token's group, behind so many
fields and capturing groups.
-/
inductive Composes (lookup : Lookup) (depth : Nat) (content : Token → Nat → Nat → Tree → Prop) :
    (first : Bool) → (index captures : Nat) → List Segment → List Tree → Prop
  | nil (first : Bool) (index captures : Nat) :
      Composes lookup depth content first index captures [] []
  | literal {first : Bool} {index captures : Nat} {text : String} {rest : List Segment}
      {literal : AnchoredLiteral} {items : List Tree}
      (hliteral : literal.Divides text.toList first rest.isEmpty)
      (hrest : Composes lookup depth content false index captures rest items) :
      Composes lookup depth content first index captures (.literal text :: rest)
        (literal.atoms.map Tree.one ++ items)
  | token {first : Bool} {index captures : Nat} {token : Token} {rest : List Segment}
      {inner : Tree} {items : List Tree} (hinner : content token index captures inner)
      (hrest : Composes lookup depth content false (index + fieldCount lookup depth token)
        (captures + (Tree.group (token.groupKind index captures) inner).captures.length)
        rest items) :
      Composes lookup depth content first index captures (.token token :: rest)
        (.group (token.groupKind index captures) inner :: items)

def Regex.Tree.ofItems : List Tree → Tree
  | [] => .empty
  | [item] => item
  | items => .sequence items

/-! ## Content that stays inside its group -/

theorem Regex.GroupKind.renumber_comp_renumber_zero (count : Nat) :
    GroupKind.renumber count ∘ GroupKind.renumber 0 = GroupKind.renumber count := by
  funext kind
  cases kind with
  | capture index name => simp [renumber]
  | plain change => rfl

mutual
theorem Regex.Tree.length_captures_renumber (count : Nat) (tree : Tree) :
    (tree.mapGroups (GroupKind.renumber count)).captures.length = tree.captures.length := by
  cases tree with
  | repeated counts greedy operand =>
      simp [Tree.mapGroups, Tree.captures, Tree.length_captures_renumber count operand]
  | group kind content =>
      cases kind <;>
        simp [Tree.mapGroups, Tree.captures, GroupKind.renumber,
          Tree.length_captures_renumber count content]
  | choice branches =>
      simp [Tree.mapGroups, Tree.captures, Tree.length_capturesOfAll_renumber count branches]
  | sequence items =>
      simp [Tree.mapGroups, Tree.captures, Tree.length_capturesOfAll_renumber count items]
  | _ => simp [Tree.mapGroups, Tree.captures]

theorem Regex.Tree.length_capturesOfAll_renumber (count : Nat) (trees : List Tree) :
    (Tree.capturesOfAll (Tree.mapGroupsOfAll (GroupKind.renumber count) trees)).length =
      (Tree.capturesOfAll trees).length := by
  cases trees with
  | nil => simp [Tree.mapGroupsOfAll, Tree.capturesOfAll]
  | cons tree rest =>
      simp [Tree.mapGroupsOfAll, Tree.capturesOfAll, Tree.length_captures_renumber count tree,
        Tree.length_capturesOfAll_renumber count rest]
end

structure Regex.Progress.BetweenTokens (state : Progress) : Prop where
  verbose : state.verbose = false
  openGroups : state.openGroups = []
  branches : state.branches = []
  named : state.NamedByFields

def Regex.OpenGroup.ofToken (token : Token) (index : Nat) (state : Progress) : OpenGroup :=
  ⟨token.groupKind index state.captures, state.verbose, state.items, state.branches⟩

theorem Token.apply_opener {token : Token} {index : Nat} {state opened : Progress}
    (h : (token.openerAction index).apply state = .ok opened) :
    opened.AtOpener (.ofToken token index state) state.openGroups ∧
      opened.verbose = state.verbose ∧
      opened.captures = state.captures + token.fieldEntry.length := by
  unfold OpenGroup.ofToken Token.groupKind Token.fieldEntry
  unfold Token.openerAction at h
  cases hfield : token.field with
  | none =>
      rw [hfield] at h
      obtain ⟨-, rfl⟩ := Action.openGroup_inv h
      exact ⟨⟨rfl, rfl, rfl⟩, rfl, rfl⟩
  | some name =>
      simp only [hfield, Action.apply, openCapture] at h
      split at h
      · cases h
      · obtain ⟨-, rfl⟩ := Action.openGroup_inv h
        exact ⟨⟨rfl, rfl, rfl⟩, rfl, rfl⟩

theorem exists_opened (token : Token) {state : Progress} (h : state.BetweenTokens) :
    ∃ opened, (token.openerAction state.captures).apply state = .ok opened ∧
      opened.NamedByFields := by
  have hroom : state.openGroups.length < nestLimit := by rw [h.openGroups]; decide
  unfold Token.openerAction
  cases token.field with
  | none =>
      have hopen : (Action.enter []).apply state = .ok _ := if_neg (Nat.not_le.2 hroom)
      exact ⟨_, hopen, h.named.of_same rfl rfl⟩
  | some name =>
      obtain ⟨opened, hopened⟩ := Progress.exists_openCapture
        (some (fieldGroupName state.captures)) h.named.fresh hroom
      have happly : Action.apply state (.capture (some (fieldGroupName state.captures))) =
        .ok opened := hopened
      obtain ⟨hcaptures, hnames⟩ := Action.counts_of_capture happly
      exact ⟨opened, happly, h.named.of_insert hcaptures hnames⟩

open Expansion in
/-- The pieces inside a token's group read as a whole, with `final` as the last state. -/
structure Contained (lookup : Lookup) (depth : Nat) (name : String) (final : Progress) : Prop where
  read : Piece.readPieces (contentPieces lookup depth name) (.inside false) =
    some final
  level : final.openGroups.length = 1
  shallow : final.content.depth + 2 ≤ nestLimit
  counted : final.captures = (Piece.fieldsOf (contentPieces lookup depth name)).length
  numbered : final.content.tree.captures.length = final.captures

namespace Contained

variable {lookup : Lookup} {depth : Nat} {name : String} {final : Progress}

/-- The content is read in any group alike, but for the numbers of its fields. -/
theorem reads_content (h : Contained lookup depth name final) (base' : List OpenGroup)
    (state : Progress) {x : List Char} (hx : Stops x) (hroom : base'.length ≤ 1)
    (hverbose : state.verbose = false) (hitems : state.items = []) (hbranches : state.branches = [])
    (hopen : state.openGroups = base') (hnames : state.NamedByFields) :
    ∃ last, state.Reads base'.length
        (Piece.textFrom state.captures (Expansion.contentPieces lookup depth name) ++ x) last x ∧
      last.content = final.content.mapGroups (GroupKind.renumber state.captures) ∧
      last.openGroups = base' ∧ last.captures = final.captures + state.captures ∧
      last.NamedByFields := by
  have hplace : Piece.InPlace state.captures base' (.inside false) state :=
    ⟨⟨hverbose, hitems, hbranches, [], rfl, hopen⟩, (Nat.zero_add _).symm, hnames⟩
  obtain ⟨last, hreads, hlast⟩ := Piece.reads_of_readPieces hx h.read hroom hplace
  exact ⟨last, hreads, hlast.mirrors.content, hlast.mirrors.same_openGroups h.level,
    hlast.captures, hlast.named⟩

theorem ofText_alone (h : Contained lookup depth name final) :
    Tree.ofText? (Piece.textFrom 0 (Expansion.contentPieces lookup depth name)) =
      .ok (final.content.tree.mapGroups (GroupKind.renumber 0)) := by
  obtain ⟨last, hreads, hcontent, hopen, -⟩ :=
    h.reads_content [] .start (x := []) (.inl rfl) (Nat.zero_le _) rfl rfl rfl rfl .start
  rw [List.append_nil] at hreads
  have hdepth : last.content.depth ≤ nestLimit := by
    rw [hcontent, Part.depth_mapGroups]
    exact (Nat.le_add_right _ 2).trans h.shallow
  have hread := Progress.readIn_of_reads false hreads hopen hdepth
  rw [hcontent] at hread
  exact hread

theorem fieldCount_eq {token : Token} (h : Contained lookup depth token.name final) :
    Expansion.fieldCount lookup (depth + 1) token = token.fieldEntry.length + final.captures := by
  rw [Expansion.fieldCount, Expansion.tokenPieces_succ, h.counted]
  simp [Piece.fields]

/-- A token is read as one group, whose content is that of the token alone. -/
theorem reads_token {token : Token} (h : Contained lookup depth token.name final)
    {state : Progress} {x : List Char} (hstate : state.BetweenTokens) :
    ∃ next, state.Reads 0 (Piece.textFrom state.captures
        (Expansion.tokenPieces lookup (depth + 1) token) ++ x) next x ∧
      next.BetweenTokens ∧
      next.items = Part.group (token.groupKind state.captures state.captures)
        (final.content.mapGroups (GroupKind.renumber (state.captures + token.fieldEntry.length))) ::
          state.items ∧
      next.captures = state.captures + Expansion.fieldCount lookup (depth + 1) token := by
  obtain ⟨opened, hopened, hnames⟩ := exists_opened token hstate
  obtain ⟨hat, hverbose, hcaptures⟩ := Token.apply_opener hopened
  have hopen := hat.openGroups
  rw [OpenGroup.ofToken, hstate.verbose, hstate.branches, hstate.openGroups] at hopen
  obtain ⟨last, hreads, hcontent, hlast, hcount, hlastNames⟩ :=
    h.reads_content _ _ (x := ')' :: x) (.inr (.inr rfl)) (by simp) (hverbose.trans hstate.verbose)
      hat.items hat.branches hopen hnames
  have hdepth : last.content.depth + 1 ≤ nestLimit := by
    rw [hcontent, Part.depth_mapGroups]
    exact (Nat.le_succ _).trans h.shallow
  obtain ⟨next, hclose, hnext, hnextItems, hnextCaptures⟩ : ∃ next, last.closeGroup = .ok next ∧
      next.BetweenTokens ∧ next.items =
        Part.group (token.groupKind state.captures state.captures) last.content :: state.items ∧
      next.captures = last.captures := by
    have hshallow : (Part.group (token.groupKind state.captures state.captures)
        last.content).checkDepth = .ok (Part.group _ last.content) := if_pos hdepth
    unfold Progress.closeGroup
    simp only [hlast, hshallow]
    exact ⟨_, rfl, ⟨rfl, rfl, rfl, hlastNames.of_same rfl rfl⟩, rfl, rfl⟩
  refine ⟨next, ?_, hnext, by rw [hnextItems, hcontent, hcaptures], ?_⟩
  · rw [Expansion.tokenPieces_succ, List.cons_append, Piece.textFrom_cons, Piece.textFrom_append,
      Piece.textFrom_cons, Piece.textFrom_nil, List.append_assoc, List.append_assoc]
    refine Piece.reads_parenthesis _ _ rfl (Piece.readAction_opener _ _ _ _) hopened (Nat.zero_le _) ?_
    change opened.Reads 0 (Piece.textFrom (state.captures + token.fieldEntry.length) _ ++ _) _ _
    rw [← hcaptures]
    refine (hreads.mono (Nat.zero_le _)).trans ?_
    exact Piece.reads_parenthesis .closer 0 rfl rfl hclose (Nat.zero_le _)
      (.stay _ _)
  · have hfields := h.fieldCount_eq
    omega

theorem length_captures {token : Token} (h : Contained lookup depth token.name final)
    (index captures count : Nat) :
    (Tree.group (token.groupKind index captures)
      (final.content.tree.mapGroups (GroupKind.renumber count))).captures.length =
        Expansion.fieldCount lookup (depth + 1) token := by
  have hcontent := Tree.length_captures_renumber count final.content.tree
  have hfields := h.fieldCount_eq
  have hnumbered := h.numbered
  unfold Token.groupKind
  cases hfield : token.field <;>
    simp only [Tree.captures, List.length_cons, Token.fieldEntry, hfield, Option.map_none,
      Option.map_some, Option.toList_none, Option.toList_some, List.length_nil] at hfields ⊢ <;>
    omega

end Contained

/-! ## Whole pattern texts -/

section Segments

variable {lookup : Lookup} {depth : Nat} {parts : List Segment}

/-- The tree is that of the token's fragment alone, with its fields numbered as they are
behind others. -/
def IsRenumbered (lookup : Lookup) (depth : Nat) (token : Token) (_index captures : Nat)
    (tree : Tree) : Prop :=
  ∃ alone, Tree.ofText? (Piece.textFrom 0 (Expansion.contentPieces lookup depth token.name)) =
      .ok alone ∧
    tree = alone.mapGroups (GroupKind.renumber (captures + token.fieldEntry.length))

theorem Contained.isRenumbered {token : Token} {final : Progress}
    (h : Contained lookup depth token.name final) (index captures : Nat) :
    IsRenumbered lookup depth token index captures
      (final.content.tree.mapGroups (GroupKind.renumber (captures + token.fieldEntry.length))) := by
  refine ⟨_, h.ofText_alone, ?_⟩
  rw [Tree.mapGroups_mapGroups, GroupKind.renumber_comp_renumber_zero]

/-- Segments are read one after the other, if no token's content leaves its group. -/
theorem reads_segments
    (hparts : ∀ token, .token token ∈ parts → ∃ final, Contained lookup depth token.name final)
    (first : Bool) (state : Progress) (hstate : state.BetweenTokens) :
    ∃ (last : Progress) (items : List Part), state.Reads 0
        (Piece.textFrom state.captures (Expansion.segmentPieces lookup (depth + 1) first parts))
        last [] ∧
      last.BetweenTokens ∧ last.items = items.reverse ++ state.items ∧
      (∀ part ∈ items, part.depth < nestLimit) ∧
      Composes lookup (depth + 1) (IsRenumbered lookup depth) first state.captures state.captures
        parts (items.map (·.tree)) := by
  induction parts generalizing first state with
  | nil => exact ⟨state, [], .stay _ _, hstate, rfl, by simp, .nil _ _ _⟩
  | cons segment rest ih =>
      have hrest (token : Token) (htoken : .token token ∈ rest) :=
        hparts token (List.mem_cons_of_mem _ htoken)
      cases segment with
      | literal text =>
          let literal := AnchoredLiteral.ofText text.toList first rest.isEmpty
          have hnext : (state.pushAtoms literal.atoms).BetweenTokens :=
            ⟨hstate.verbose, hstate.openGroups, hstate.branches, hstate.named.of_same rfl rfl⟩
          obtain ⟨last, items, hreads, hlast, hitems, hdepths, hcomposes⟩ := ih hrest false _ hnext
          have hliteral := readsAs_literal literal state hstate.verbose
            (Piece.textFrom state.captures (Expansion.segmentPieces lookup (depth + 1) false rest))
          rw [hstate.openGroups] at hliteral
          refine ⟨last, literal.atoms.map Part.ofAtom ++ items, hliteral.trans hreads, hlast, ?_,
            ?_, ?_⟩
          · simp [hitems, Progress.pushAtoms]
          · refine List.forall_mem_append.2 ⟨fun part hpart => ?_, hdepths⟩
            obtain ⟨atom, -, rfl⟩ := List.mem_map.1 hpart
            exact Nat.zero_lt_of_lt (by decide : 0 < nestLimit)
          · have hdivides := AnchoredLiteral.ofText_divides text.toList first rest.isEmpty
            have hall := Composes.literal hdivides hcomposes
            rwa [List.map_append, List.map_map]
      | token token =>
          obtain ⟨final, hfinal⟩ := hparts token List.mem_cons_self
          obtain ⟨next, htoken, hnext, hitem, hcaptures⟩ := hfinal.reads_token hstate
            (x := Piece.textFrom (state.captures + Expansion.fieldCount lookup (depth + 1) token)
              (Expansion.segmentPieces lookup (depth + 1) false rest))
          obtain ⟨last, items, hreads, hlast, hitems, hdepths, hcomposes⟩ := ih hrest false _ hnext
          rw [hcaptures] at hreads hcomposes
          let inner := final.content.mapGroups
            (GroupKind.renumber (state.captures + token.fieldEntry.length))
          let item := Part.group (token.groupKind state.captures state.captures) inner
          refine ⟨last, item :: items, ?_, hlast, ?_, ?_, ?_⟩
          · rw [Expansion.segmentPieces, Piece.textFrom_append]
            exact htoken.trans hreads
          · rw [hitems, hitem, List.reverse_cons, List.append_assoc, List.singleton_append]
          · exact List.forall_mem_cons.2 ⟨hfinal.shallow, hdepths⟩
          · refine .token (hfinal.isRenumbered state.captures state.captures) ?_
            have hcount := hfinal.length_captures state.captures state.captures
              (state.captures + token.fieldEntry.length)
            exact hcount ▸ hcomposes

end Segments

namespace Regex

theorem Part.tree_sequence (parts : List Part) :
    (Part.sequence parts).tree = Tree.ofItems (parts.reverse.map (·.tree)) := by
  match parts with
  | [] => rfl
  | [part] => rfl
  | first :: second :: rest =>
      obtain ⟨last, before, more, hreverse⟩ :
          ∃ last before more, (first :: second :: rest).reverse = last :: before :: more := by
        have hlength := (first :: second :: rest).length_reverse
        match (first :: second :: rest).reverse, hlength with
        | last :: before :: more, _ => exact ⟨last, before, more, rfl⟩
      change Tree.sequence ((first :: second :: rest).reverse.map (·.tree)) = _
      rw [hreverse]
      rfl

theorem Part.deepest_lt {parts : List Part} {bound : Nat} (hbound : 0 < bound)
    (h : ∀ part ∈ parts, part.depth < bound) : Part.deepest parts < bound := by
  have hfold (parts : List Part) (h : ∀ part ∈ parts, part.depth < bound) (most : Nat)
      (hmost : most < bound) :
      parts.foldl (fun depth part => max depth part.depth) most < bound := by
    induction parts generalizing most with
    | nil => exact hmost
    | cons part rest ih =>
        exact ih (fun part hpart => h part (List.mem_cons_of_mem _ hpart)) _
          (Nat.max_lt.2 ⟨hmost, h part List.mem_cons_self⟩)
  exact hfold parts h 0 hbound

theorem Part.depth_sequence_le {parts : List Part} (h : ∀ part ∈ parts, part.depth < nestLimit) :
    (Part.sequence parts).depth ≤ nestLimit := by
  match parts with
  | [] => exact Nat.zero_le _
  | [part] => exact (h part List.mem_cons_self).le
  | first :: second :: rest => exact Part.deepest_lt (by decide) h

end Regex

/-- The expression of a pattern text is the sequence of its segments' items. -/
theorem ofText_segments {lookup : Lookup} {depth : Nat} {parts : List Segment} (first : Bool)
    (hparts : ∀ token, .token token ∈ parts → ∃ final, Contained lookup depth token.name final) :
    ∃ items, Tree.ofText? (Piece.textFrom 0
        (Expansion.segmentPieces lookup (depth + 1) first parts)) = .ok (Tree.ofItems items) ∧
      Composes lookup (depth + 1) (IsRenumbered lookup depth) first 0 0 parts items := by
  obtain ⟨last, items, hreads, hlast, hitems, hdepths, hcomposes⟩ :=
    reads_segments hparts first .start ⟨rfl, rfl, rfl, .start⟩
  refine ⟨items.map Part.tree, ?_, hcomposes⟩
  have hcontent : last.content = Part.sequence last.items := by
    simp [Progress.content, hlast.branches, Part.choice]
  have hdepth : (Part.sequence last.items).depth ≤ nestLimit := by
    refine Part.depth_sequence_le fun part hpart => hdepths part ?_
    simpa [hitems, Progress.start] using hpart
  have htree : (Part.sequence last.items).tree = Tree.ofItems (items.map (·.tree)) := by
    rw [Part.tree_sequence, hitems]
    simp [Progress.start]
  have hread := Progress.readIn_of_reads false hreads hlast.openGroups
    (hcontent ▸ hdepth)
  rw [hcontent, htree] at hread
  exact hread

end LogPattern
