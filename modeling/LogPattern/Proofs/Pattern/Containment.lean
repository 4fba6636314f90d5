import LogPattern.Proofs.Pattern.Composition
import LogPattern.Proofs.Pattern.References

/-!
# Fragments that stay inside their groups

Fragments are spliced as they are, and only the whole expression is checked.  So whether
the group of a token is closed by the token's own closer is a question about the text of
the fragment: it is, exactly if that text stays inside a group that is put around it.
Where all fragments do, the expression is composed of the items of the segments.
-/

namespace LogPattern

open Regex

namespace Expansion

def contentText (lookup : Lookup) (depth index : Nat) (name : String) : List Char :=
  Piece.textFrom index (contentPieces lookup depth name)

theorem textFrom_tokenPieces (lookup : Lookup) (depth index : Nat) (token : Token)
    (behind : List Char) :
    Piece.textFrom index (tokenPieces lookup (depth + 1) token) ++ behind =
      (Piece.opener token).text index ++
        (contentText lookup depth (index + token.fieldEntry.length) token.name ++
          ')' :: behind) := by
  rw [tokenPieces_succ, List.cons_append, Piece.textFrom_cons, Piece.textFrom_append,
    Piece.textFrom_cons, Piece.textFrom_nil, List.append_assoc, List.append_assoc]
  rfl

def AllContained (lookup : Lookup) (maxDepth : Nat) : (index : Nat) → List Segment → Prop
  | _, [] => True
  | index, .literal _ :: rest => AllContained lookup maxDepth index rest
  | index, .token token :: rest =>
      SelfContained false
          (contentText lookup (maxDepth - 1) (index + token.fieldEntry.length) token.name) ∧
        AllContained lookup maxDepth (index + fieldCount lookup maxDepth token) rest

end Expansion

/-- The tree is that of the token's fragment alone, with its groups numbered as they are
behind others. -/
def IsRaised (lookup : Lookup) (depth : Nat) (token : Token) (index captures : Nat)
    (tree : Tree) : Prop :=
  ∃ alone, Tree.ofText?
      (Expansion.contentText lookup depth (index + token.fieldEntry.length) token.name) =
        .ok alone ∧
    tree = alone.mapGroups (GroupKind.raise (captures + token.fieldEntry.length))

/-! ## Tokens in their place -/

theorem Regex.Action.numbered {state next : Progress} {action : Action} {c : Char}
    {inner rest : List Char} (haction : readAction state.verbose (c :: inner) = .ok (action, rest))
    (hnext : action.apply state = .ok next) (hstate : state.Numbered) : next.Numbered := by
  have hpart : readPart state (c :: inner) = .ok (next, rest) := by
    rw [readPart_eq, haction]
    simp [Except.bind, runAction, hnext, Except.map]
  exact (readPart_spec hpart).2.numbered hstate

theorem Regex.Progress.Reads.numbered {level : Nat} {state final : Progress}
    {text back : List Char} (h : state.Reads level text final back) (hstate : state.Numbered) :
    final.Numbered := by
  induction h with
  | stay => exact hstate
  | part _ haction hnext _ _ ih => exact ih (Action.numbered haction hnext hstate)

section Token

variable {lookup : Lookup} {depth index lower : Nat} {token : Token} {state last : Progress}
  {behind stop : List Char}

/-- The reader that comes to the opener of a token opens the token's group. -/
theorem exists_opened_of_run
    (hrun : state.Reads lower (Piece.textFrom index
      (Expansion.tokenPieces lookup (depth + 1) token) ++ behind) last stop)
    (hend : skipBlank last.verbose stop = []) :
    ∃ opened, (token.openerAction index).apply state = .ok opened ∧
      opened.Reads lower (Expansion.contentText lookup depth (index + token.fieldEntry.length)
        token.name ++ ')' :: behind) last stop ∧ (state.Numbered → opened.Numbered) := by
  rw [Expansion.textFrom_tokenPieces] at hrun
  have haction := Piece.readAction_opener state.verbose token index
    (Expansion.contentText lookup depth (index + token.fieldEntry.length) token.name ++
      ')' :: behind)
  obtain ⟨c, inner, htext, -, hblank⟩ := Piece.skipBlank_text (.opener token) rfl
    state.verbose index (Expansion.contentText lookup depth (index + token.fieldEntry.length)
      token.name ++ ')' :: behind)
  rw [htext] at hrun haction
  obtain ⟨opened, hopened, hrest⟩ := hrun.advance hend hblank haction
  exact ⟨opened, hopened, hrest, Action.numbered haction hopened⟩

/-- In its place, a fragment closes its group with the token's closer exactly if it is
self-contained. -/
theorem closedBehind_iff_selfContained
    (hrun : state.Reads lower (Piece.textFrom index
      (Expansion.tokenPieces lookup (depth + 1) token) ++ behind) last stop)
    (hend : skipBlank last.verbose stop = []) :
    let content := Expansion.contentText lookup depth (index + token.fieldEntry.length) token.name
    ∃ opened, (token.openerAction index).apply state = .ok opened ∧
      (opened.ClosedBehind content behind ↔ SelfContained state.verbose content) ∧
      (opened.ClosedBehind content behind →
        ∃ tree, Tree.readIn state.verbose content = .ok tree) := by
  intro content
  obtain ⟨opened, hopened, hrest, -⟩ := exists_opened_of_run hrun hend
  obtain ⟨hat, hverbose, -⟩ := Token.apply_opener hopened
  have hself (h : opened.ClosedBehind content behind) : SelfContained state.verbose content :=
    hverbose ▸ h.selfContained hat
  refine ⟨opened, hopened, ⟨hself, fun h => ?_⟩, fun h => ?_⟩
  · obtain ⟨final, _, _, hreads, hopen, -⟩ :=
      Progress.SelfContained.closedBehind (hverbose ▸ h) hat hrest hend
    exact ⟨final, hreads, by rw [hopen]⟩
  · obtain ⟨_, _, tree, -, -, -, -, htree, -⟩ :=
      Progress.SelfContained.closedBehind (hverbose ▸ hself h) hat hrest hend
    exact ⟨tree, hverbose ▸ htree⟩

end Token

/-! ## Whole texts -/

/-- A state between the tokens of a pattern text, with all groups numbered. -/
structure Regex.Progress.AtTopLevel (state : Progress) : Prop where
  verbose : state.verbose = false
  openGroups : state.openGroups = []
  branches : state.branches = []
  numbered : state.Numbered

theorem Regex.Progress.AtTopLevel.captures_eq {state : Progress} (h : state.AtTopLevel) :
    state.captures = (Part.capturesOf state.items).length := by
  have hnumbered := congrArg List.length h.numbered
  simpa [Progress.numbers, h.openGroups, h.branches] using hnumbered.symm

section Segments

variable {lookup : Lookup} {maxDepth : Nat} {parts : List Segment}

/-- A self-contained token at the top level is read as one group. -/
theorem reads_contained {index : Nat} {token : Token} {state last : Progress}
    {behind stop : List Char} {depth : Nat} (hstate : state.AtTopLevel)
    (hself : SelfContained false
      (Expansion.contentText lookup depth (index + token.fieldEntry.length) token.name))
    (hrun : state.Reads 0 (Piece.textFrom index
      (Expansion.tokenPieces lookup (depth + 1) token) ++ behind) last stop)
    (hend : skipBlank last.verbose stop = []) :
    ∃ (next : Progress) (inner : Part), next.Reads 0 behind last stop ∧ next.AtTopLevel ∧
      next.items = Part.group (token.groupKind index state.captures) inner :: state.items ∧
      IsRaised lookup depth token index state.captures inner.tree ∧
      next.captures = state.captures +
        (Tree.group (token.groupKind index state.captures) inner.tree).captures.length := by
  obtain ⟨opened, hopened, hrest, hnumbered⟩ := exists_opened_of_run hrun hend
  obtain ⟨hat, hverbose, hcaptures⟩ := Token.apply_opener hopened
  rw [hstate.verbose] at hverbose
  obtain ⟨final, next, tree, hreads, hopen, hclose, hbehind, htree, hcontent⟩ :=
    Progress.SelfContained.closedBehind (hverbose ▸ hself) hat hrest hend
  rw [hverbose] at htree
  obtain ⟨group, outer, hgroups, heq⟩ := Action.closeGroup_inv hclose
  rw [hopen, hat.openGroups] at hgroups
  obtain ⟨rfl, rfl⟩ := List.cons.inj hgroups
  have hnumbers : next.Numbered :=
    (Progress.Move.leave hclose : final.Move [] next).numbered
      (hreads.numbered (hnumbered hstate.numbered))
  have hnext : next.AtTopLevel :=
    ⟨heq ▸ hstate.verbose, heq ▸ hstate.openGroups, heq ▸ hstate.branches, hnumbers⟩
  have hitems : next.items =
      Part.group (token.groupKind index state.captures) final.content :: state.items := by
    rw [heq]
    rfl
  refine ⟨next, final.content, hbehind, hnext, hitems, ⟨tree, htree, by rw [hcontent, hcaptures]⟩, ?_⟩
  rw [hnext.captures_eq, hitems, Part.capturesOf_cons, List.length_append, ← hstate.captures_eq]
  rfl

theorem composes_of_run {first : Bool} {index : Nat} {state last : Progress} {stop : List Char}
    (hstate : state.AtTopLevel)
    (hrun : state.Reads 0
      (Piece.textFrom index (Expansion.segmentPieces lookup maxDepth first parts)) last stop)
    (hend : skipBlank last.verbose stop = [])
    (hdepth : ∀ token, .token token ∈ parts → maxDepth ≠ 0)
    (hcontained : Expansion.AllContained lookup maxDepth index parts) :
    ∃ items : List Part, last.AtTopLevel ∧ last.items = items.reverse ++ state.items ∧
      Composes lookup maxDepth (IsRaised lookup (maxDepth - 1)) first index state.captures parts
        (items.map (·.tree)) := by
  induction parts generalizing first index state with
  | nil =>
      cases hrun with
      | stay => exact ⟨[], hstate, rfl, .nil _ _ _⟩
      | part hblank =>
          rw [hstate.verbose] at hblank
          cases hblank
  | cons segment rest ih =>
      have hrest (token : Token) (htoken : .token token ∈ rest) :=
        hdepth token (List.mem_cons_of_mem _ htoken)
      cases segment with
      | literal text =>
          have hdivides := AnchoredLiteral.ofText_divides text.toList first rest.isEmpty
          let literal := AnchoredLiteral.ofText text.toList first rest.isEmpty
          have hliteral := readsAs_literal literal state hstate.verbose
            (Piece.textFrom index (Expansion.segmentPieces lookup maxDepth false rest))
          have hpushed : (state.pushAtoms literal.atoms).AtTopLevel :=
            ⟨hstate.verbose, hstate.openGroups, hstate.branches, hliteral.numbered hstate.numbered⟩
          obtain ⟨items, hlast, hitems, hcomposes⟩ :=
            ih hpushed (hliteral.resume hrun hend) hrest hcontained
          refine ⟨literal.atoms.map Part.ofAtom ++ items, hlast, ?_, ?_⟩
          · simp [hitems, Progress.pushAtoms]
          · have hall := Composes.literal hdivides hcomposes
            rwa [List.map_append, List.map_map]
      | token token =>
          obtain ⟨depth, rfl⟩ : ∃ depth, maxDepth = depth + 1 :=
            Nat.exists_eq_succ_of_ne_zero (hdepth token List.mem_cons_self)
          rw [Expansion.segmentPieces, Piece.textFrom_append] at hrun
          obtain ⟨next, inner, hbehind, hnext, hitem, hraised, hcaptures⟩ :=
            reads_contained hstate hcontained.1 hrun hend
          obtain ⟨items, hlast, hitems, hcomposes⟩ := ih hnext hbehind hrest hcontained.2
          refine ⟨Part.group (token.groupKind index state.captures) inner :: items, hlast, ?_, ?_⟩
          · rw [hitems, hitem, List.reverse_cons, List.append_assoc, List.singleton_append]
          · rw [hcaptures] at hcomposes
            exact .token hraised hcomposes

end Segments

/-! ## Compiled patterns -/

namespace Expansion

/-- A token, of the text itself or of a fragment, among the pieces of an expansion. -/
structure Occurrence (lookup : Lookup) (maxDepth : Nat) (text : String) where
  front : List Piece
  /-- How far the references of the token's fragment are followed. -/
  depth : Nat
  token : Token
  back : List Piece
  complete : pieces lookup maxDepth text = front ++ tokenPieces lookup (depth + 1) token ++ back

namespace Occurrence

variable {lookup : Lookup} {maxDepth : Nat} {text : String}

def index (place : Occurrence lookup maxDepth text) : Nat := (Piece.fieldsOf place.front).length

def content (place : Occurrence lookup maxDepth text) : List Char :=
  contentText lookup place.depth (place.index + place.token.fieldEntry.length) place.token.name

def behind (place : Occurrence lookup maxDepth text) : List Char :=
  Piece.textFrom (place.index + fieldCount lookup (place.depth + 1) place.token) place.back

def fromOpener (place : Occurrence lookup maxDepth text) : List Char :=
  (Piece.opener place.token).text place.index ++ (place.content ++ ')' :: place.behind)

/-- The occurrence is a place in the text of the expansion. -/
theorem textFrom_pieces (place : Occurrence lookup maxDepth text) :
    Piece.textFrom 0 (pieces lookup maxDepth text) =
      Piece.textFrom 0 place.front ++ place.fromOpener := by
  rw [place.complete, List.append_assoc, Piece.textFrom_append, Nat.zero_add, Piece.textFrom_append,
    textFrom_tokenPieces]
  rfl

end Occurrence

end Expansion

theorem selfContained_of_readBefore (steps : Nat) {verbose : Bool} {content : List Char}
    (h : (Piece.readBefore 1 steps (.inside verbose) (content ++ [')'])).any
      (·.openGroups.length == 1) = true) : SelfContained verbose content := by
  obtain ⟨final, hread, hlevel⟩ := (Option.any_eq_true _ _).1 h
  exact ⟨final, Piece.reads_of_readBefore hread, beq_iff_eq.1 hlevel⟩

namespace CompiledPattern

variable {lookup : Lookup} {maxDepth : Nat} {text : String} {pattern : CompiledPattern}

/-- What compiles is read to the end of its text. -/
theorem exists_run_of_compile (h : compile lookup maxDepth text = .ok pattern) :
    ∃ last stop, Progress.start.Reads 0 pattern.expanded.toList last stop ∧
      skipBlank last.verbose stop = [] ∧
      Tree.ofText? pattern.expanded.toList = .ok last.content.tree := by
  obtain ⟨expansion, -, -, -, hregex, -⟩ := compile_inv h
  obtain ⟨tree, -, htree, -⟩ := Regex.ofText?_eq_ok_iff.1 hregex
  obtain ⟨last, hlast, -, -, rfl⟩ := Tree.ofText?_eq_ok_iff.1 htree
  obtain ⟨stop, hrun, hend⟩ := reads_of_readParts hlast (Nat.le_refl _)
  exact ⟨last, stop, hrun, hend, htree⟩

theorem toList_expanded (h : compile lookup maxDepth text = .ok pattern) :
    pattern.expanded.toList = Piece.textFrom 0 (Expansion.pieces lookup maxDepth text) := by
  obtain ⟨expansion, hexpansion, htext, -⟩ := compile_inv h
  rw [htext]
  exact (Expansion.ofText_writes hexpansion).1

/-- Where all fragments are self-contained, the expression is composed of the segments' items. -/
theorem composes_of_allContained (h : compile lookup maxDepth text = .ok pattern)
    (hcontained : Expansion.AllContained lookup maxDepth 0 (segments text)) :
    ∃ items, Tree.ofText? pattern.expanded.toList = .ok (Tree.ofItems items) ∧
      Composes lookup maxDepth (IsRaised lookup (maxDepth - 1)) true 0 0 (segments text) items := by
  obtain ⟨last, stop, hrun, hend, htree⟩ := exists_run_of_compile h
  have hdepth (token : Token) (htoken : .token token ∈ segments text) : maxDepth ≠ 0 := by
    have hle := (resolvable_of_compile h).shallow token.name (mem_mentions.2 ⟨token, htoken, rfl⟩)
      [] (List.isChain_singleton _)
    rw [List.length_singleton] at hle
    omega
  have hstart : Progress.start.AtTopLevel := ⟨rfl, rfl, rfl, Progress.numbered_start⟩
  rw [toList_expanded h] at hrun
  obtain ⟨items, hlast, hitems, hcomposes⟩ := composes_of_run hstart hrun hend hdepth hcontained
  refine ⟨items.map Part.tree, ?_, hcomposes⟩
  have hcontent : last.content.tree = Tree.ofItems (items.map (·.tree)) := by
    rw [Progress.content, hlast.branches, hitems]
    simp [Part.choice, Part.tree_sequence, Progress.start]
  rw [htree, hcontent]

/--
In a compiled pattern, wherever the reader comes to the opener of a token, of the text or
of a fragment, it opens a group.  The closer of the same token closes this group exactly
if the expanded fragment stays inside a group put around it, and then the fragment is a
regular expression of its own.  If all tokens of the text have such fragments, the
expression is composed of its anchors and characters and of one group for every token.
-/
theorem groups_closed_iff_selfContained (h : compile lookup maxDepth text = .ok pattern) :
    (∀ (place : Expansion.Occurrence lookup maxDepth text) (state : Progress),
      Progress.start.Reads 0 pattern.expanded.toList state place.fromOpener →
      ∃ opened, (place.token.openerAction place.index).apply state = .ok opened ∧
        (opened.ClosedBehind place.content place.behind ↔
          SelfContained state.verbose place.content) ∧
        (opened.ClosedBehind place.content place.behind →
          ∃ tree, Tree.readIn state.verbose place.content = .ok tree)) ∧
    (Expansion.AllContained lookup maxDepth 0 (segments text) →
      ∃ items, Tree.ofText? pattern.expanded.toList = .ok (Tree.ofItems items) ∧
        Composes lookup maxDepth (IsRaised lookup (maxDepth - 1)) true 0 0 (segments text)
          items) := by
  refine ⟨fun place state hreach => ?_, composes_of_allContained h⟩
  obtain ⟨last, stop, hrun, hend, -⟩ := exists_run_of_compile h
  have hrest := hreach.resume hrun hend
  rw [Expansion.Occurrence.fromOpener, Expansion.Occurrence.content,
    ← Expansion.textFrom_tokenPieces] at hrest
  exact closedBehind_iff_selfContained hrest hend

/-- A fragment with a parenthesis in brackets, inside another one, stays in its group. -/
theorem groups_closed_iff_selfContained_nested :
    let lookup :=
      (Registry.empty.registerAll [⟨"A", "x%{B:f}|y"⟩, ⟨"B", "[)]+"⟩]).registry.lookup?
    ∃ (pattern : CompiledPattern) (place : Expansion.Occurrence lookup defaultMaxDepth "%{A}-")
      (state : Progress),
      compile lookup defaultMaxDepth "%{A}-" = .ok pattern ∧
      pattern.expanded = "(?:x(?P<f0>[)]+)|y)\\-" ∧
      place.token.name = "B" ∧ Progress.start.Reads 0 pattern.expanded.toList state place.fromOpener ∧
      (∃ opened, (place.token.openerAction place.index).apply state = .ok opened ∧
        opened.ClosedBehind place.content place.behind) ∧
      ∃ items, Tree.ofText? pattern.expanded.toList = .ok (Tree.ofItems items) ∧
        Composes lookup defaultMaxDepth (IsRaised lookup (defaultMaxDepth - 1)) true 0 0
          (segments "%{A}-") items := by
  intro lookup
  have hcompiles : (compile lookup defaultMaxDepth "%{A}-").toOption.any
      (fun pattern => pattern.expanded = "(?:x(?P<f0>[)]+)|y)\\-") = true := by decide +kernel
  obtain ⟨pattern, hpattern, hexpanded⟩ := except_exists_ok hcompiles
  have hexpanded : pattern.expanded = "(?:x(?P<f0>[)]+)|y)\\-" := by simpa using hexpanded
  obtain ⟨hclosed, hcomposes⟩ := groups_closed_iff_selfContained hpattern
  let outer : Token := ⟨"A", none, none, 0, "%{A}"⟩
  let inner : Token := ⟨"B", some "f", none, 1, "%{B:f}"⟩
  have hcomplete : Expansion.pieces lookup defaultMaxDepth "%{A}-" =
      [.opener outer, .fragment ['x']] ++ Expansion.tokenPieces lookup (48 + 1) inner ++
        [.fragment ['|', 'y'], .closer, .literal ⟨false, ['-'], .plain⟩] := by decide +kernel
  let place : Expansion.Occurrence lookup defaultMaxDepth "%{A}-" := ⟨_, 48, inner, _, hcomplete⟩
  have hcontent : place.content = ['[', ')', ']', '+'] := by
    change Expansion.contentText lookup 48 1 "B" = _
    decide +kernel
  let state := (Progress.inside false).push (.ofAtom (.char 'x' false))
  have hreach : Progress.start.Reads 0 pattern.expanded.toList state place.fromOpener := by
    rw [toList_expanded hpattern, place.textFrom_pieces]
    exact .part rfl rfl rfl (Nat.zero_le _) (.part rfl rfl rfl (Nat.zero_le _) (.stay _ _))
  obtain ⟨opened, hopened, hiff, -⟩ := hclosed place state hreach
  refine ⟨pattern, place, state, hpattern, hexpanded, rfl, hreach, ⟨opened, hopened, hiff.2 ?_⟩,
    hcomposes ?_⟩
  · rw [hcontent]
    exact selfContained_of_readBefore 5 (by decide +kernel)
  · have hsegments : segments "%{A}-" = [.token outer, .literal "-"] := by decide +kernel
    rw [hsegments]
    exact ⟨selfContained_of_readBefore 20 (by decide +kernel), trivial⟩

/-- A fragment closes the group of its token, and opens another one for the closer. -/
theorem fragment_leaves_group :
    let lookup := (Registry.empty.registerAll [⟨"A", "a)|(b"⟩]).registry.lookup?
    ∃ (pattern : CompiledPattern) (place : Expansion.Occurrence lookup defaultMaxDepth "%{A}")
      (opened : Progress),
      compile lookup defaultMaxDepth "%{A}" = .ok pattern ∧
      pattern.expanded = "(?:a)|(?:b)" ∧
      pattern.expanded.toList = place.fromOpener ∧
      (place.token.openerAction place.index).apply .start = .ok opened ∧
      ¬ opened.ClosedBehind place.content place.behind ∧
      Tree.ofText? place.content = .error .groupNotOpened := by
  intro lookup
  have hcompiles : (compile lookup defaultMaxDepth "%{A}").toOption.any
      (fun pattern => pattern.expanded = "(?:a)|(?:b)") = true := by decide +kernel
  obtain ⟨pattern, hpattern, hexpanded⟩ := except_exists_ok hcompiles
  have hexpanded : pattern.expanded = "(?:a)|(?:b)" := by simpa using hexpanded
  let token : Token := ⟨"A", none, none, 0, "%{A}"⟩
  have hcomplete : Expansion.pieces lookup defaultMaxDepth "%{A}" =
      [] ++ Expansion.tokenPieces lookup (49 + 1) token ++ [] := by decide +kernel
  let place : Expansion.Occurrence lookup defaultMaxDepth "%{A}" :=
    ⟨[], 49, token, [], hcomplete⟩
  have hcontent : place.content = ['a', ')', '|', '(', '?', ':', 'b'] := by
    change Expansion.contentText lookup 49 0 "A" = _
    decide +kernel
  have htext : pattern.expanded.toList = place.fromOpener := by
    rw [hexpanded, Expansion.Occurrence.fromOpener, hcontent]
    rfl
  refine ⟨pattern, place, _, hpattern, hexpanded, htext, rfl, ?_, ?_⟩
  · rintro ⟨final, hreads, -⟩
    rw [hcontent] at hreads
    -- the reader leaves the group at the first parenthesis
    cases hreads with
    | part hblank haction hnext hlevel hrest =>
        cases hblank
        cases haction
        cases hnext
        cases hrest with
        | part hblank haction hnext hlevel hrest =>
            cases hblank
            cases haction
            cases hnext
            cases hlevel
  · rw [hcontent]
    rfl

end CompiledPattern

end LogPattern
