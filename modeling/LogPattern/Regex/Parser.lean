import LogPattern.CodePoint.Word
import LogPattern.Regex.Bracket
import Std.Data.TreeSet

/-!
# Reading regular expressions

The reader works through the text one part at a time and keeps open groups on a
stack of its own.  A finished part carries its nesting depth with it, so that an
expression nested beyond the limit is refused where the limit is passed.
-/

namespace LogPattern.Regex

/-- A syntax tree with the number of nested groups, repetitions, sequences and classes in it. -/
structure Part where
  tree : Tree
  depth : Nat

namespace Part

def ofAtom (atom : Atom) : Part := ⟨.one atom, 0⟩

def deepest (parts : List Part) : Nat := parts.foldl (fun depth part => max depth part.depth) 0

/-- Parts one after the other, given last first. -/
def sequence : List Part → Part
  | [] => ⟨.empty, 0⟩
  | [part] => part
  | parts => ⟨.sequence (parts.reverse.map (·.tree)), deepest parts + 1⟩

/-- A choice between the `earlier` branches, given last first, and the `last` one. -/
def choice (earlier : List Part) (last : Part) : Part :=
  if earlier.isEmpty then last
  else ⟨.choice ((last :: earlier).reverse.map (·.tree)), max last.depth (deepest earlier) + 1⟩

def group (kind : GroupKind) (content : Part) : Part :=
  ⟨.group kind content.tree, content.depth + 1⟩

def repeated (counts : Counts) (greedy : Bool) (operand : Part) : Part :=
  ⟨.repeated counts greedy operand.tree, operand.depth + 1⟩

def checkDepth (part : Part) : Except Fault Part :=
  if part.depth ≤ nestLimit then .ok part else .error .nestedTooDeeply

end Part

/-- A group that is still open, with the surroundings to return to. -/
structure OpenGroup where
  kind : GroupKind
  verboseOutside : Bool
  itemsOutside : List Part
  branchesOutside : List Part

/--
What has been read so far: the items of the innermost sequence and the finished
branches of the innermost choice, both last first, and the open groups from the
inside out.
-/
structure Progress where
  verbose : Bool
  items : List Part
  branches : List Part
  openGroups : List OpenGroup
  captures : Nat
  names : Std.TreeSet String

namespace Progress

def start : Progress := ⟨false, [], [], [], 0, ∅⟩

def push (state : Progress) (part : Part) : Progress :=
  { state with items := part :: state.items }

def content (state : Progress) : Part := Part.choice state.branches (Part.sequence state.items)

def openGroup (state : Progress) (kind : GroupKind) (verbose : Bool) : Except Fault Progress :=
  if state.openGroups.length ≥ nestLimit then .error .nestedTooDeeply
  else .ok { state with
    verbose
    items := []
    branches := []
    openGroups := ⟨kind, state.verbose, state.items, state.branches⟩ :: state.openGroups }

def closeGroup (state : Progress) : Except Fault Progress :=
  match state.openGroups with
  | [] => .error .groupNotOpened
  | inner :: outer =>
      match (Part.group inner.kind state.content).checkDepth with
      | .error fault => .error fault
      | .ok part =>
          .ok { state with
            verbose := inner.verboseOutside
            items := part :: inner.itemsOutside
            branches := inner.branchesOutside
            openGroups := outer }

def nextBranch (state : Progress) : Progress :=
  { state with items := [], branches := Part.sequence state.items :: state.branches }

/-- Repeat the last item; a flag directive is no item that could be repeated. -/
def repeatLast (state : Progress) (counts : Counts) (greedy : Bool) : Except Fault Progress :=
  match state.items with
  | [] => .error .nothingToRepeat
  | last :: items =>
      match last.tree with
      | .flags _ => .error .nothingToRepeat
      | _ =>
          match (Part.repeated counts greedy last).checkDepth with
          | .error fault => .error fault
          | .ok part => .ok { state with items := part :: items }

end Progress

def flagOfLetter? : Char → Option Flag
  | 'i' => some .ignoreCase
  | 'm' => some .multiLine
  | 's' => some .dotMatchesLineFeed
  | 'U' => some .swapGreed
  | 'u' => some .unicode
  | 'R' => some .carriageReturns
  | 'x' => some .verbose
  | _ => none

/--
Flags up to a colon or a closing parenthesis, which is answered with the rest.
No flag may occur twice, and a hyphen occurs at most once and not at the end.
`afterHyphen` says that a hyphen was the last character read.
-/
def readFlags (negated afterHyphen : Bool) (change : FlagChange) :
    List Char → Except Fault (FlagChange × Char × List Char)
  | [] => .error .groupFlags
  | c :: rest =>
      if c = ':' ∨ c = ')' then
        if afterHyphen then .error .groupFlags else .ok (change.reverse, c, rest)
      else if c = '-' then
        if negated then .error .groupFlags else readFlags true true change rest
      else
        match flagOfLetter? c with
        | none => .error .groupFlags
        | some flag =>
            if change.any (·.1 = flag) then .error .groupFlags
            else readFlags negated false ((flag, !negated) :: change) rest

def isNameStart (c : Char) : Bool := c = '_' || c.isAlpha || alphabetic.containsChar c

def isNameRest (c : Char) : Bool :=
  c = '.' || c = '[' || c = ']' || c.isDigit || isNameStart c || numeric.containsChar c

def readGroupName (text : List Char) : Except Fault (String × List Char) :=
  match text.span (· != '>') with
  | (first :: more, _ :: rest) =>
      if isNameStart first && more.all isNameRest then .ok (String.ofList (first :: more), rest)
      else .error .groupName
  | _ => .error .groupName

/-- Enter a capturing group, with the next number. -/
def openCapture (state : Progress) (name : Option String) : Except Fault Progress :=
  let repeatedName := name.any state.names.contains
  if repeatedName then .error .repeatedGroupName
  else
    { state with
      captures := state.captures + 1
      names := name.elim state.names state.names.insert }.openGroup
        (.capture (state.captures + 1) name) state.verbose

/-- Read what follows an opening parenthesis: a group's opener or a flag directive. -/
def readGroup (state : Progress) (text : List Char) : Except Fault (Progress × List Char) :=
  match skipBlank state.verbose text with
  | '?' :: '=' :: _ => .error .lookAround
  | '?' :: '!' :: _ => .error .lookAround
  | '?' :: '<' :: '=' :: _ => .error .lookAround
  | '?' :: '<' :: '!' :: _ => .error .lookAround
  | '?' :: 'P' :: '<' :: rest => do
      let (name, rest) ← readGroupName rest
      return (← openCapture state (some name), rest)
  | '?' :: '<' :: rest => do
      let (name, rest) ← readGroupName rest
      return (← openCapture state (some name), rest)
  | '?' :: rest => do
      let (change, stop, rest) ← readFlags false false [] rest
      let verbose := (change.value? .verbose).getD state.verbose
      if stop = ':' then return (← state.openGroup (.plain change) verbose, rest)
      else if change.isEmpty then throw .nothingToRepeat
      else return ({ state with verbose }.push ⟨.flags change, 0⟩, rest)
  | text => do return (← openCapture state none, text)

/--
A decimal number with white space around it; verbose mode also ignores blanks
between the digits.  `comment` says that a comment is being read, and `value` is
the number so far.
-/
def readCountFrom (verbose comment : Bool) (value : Option Nat) :
    List Char → Option Nat × List Char
  | [] => (value, [])
  | c :: rest =>
      if comment then readCountFrom verbose (c != '\n') value rest
      else if c.isDigit then
        readCountFrom verbose false (some (10 * value.getD 0 + (c.toNat - '0'.toNat))) rest
      else if verbose && value.isSome && isWhite c then readCountFrom verbose false value rest
      else if verbose && value.isSome && c = '#' then readCountFrom verbose true value rest
      else (value, c :: rest)

def readCount (verbose : Bool) (text : List Char) : Except Fault (Nat × List Char) :=
  match readCountFrom verbose false none (text.dropWhile isWhite) with
  | (none, _) => .error .repetitionCounts
  | (some value, rest) =>
      if value < Nat.pow 2 32 then .ok (value, skipBlank verbose (rest.dropWhile isWhite))
      else .error .repetitionCounts

def readCounts (verbose : Bool) (text : List Char) : Except Fault (Counts × List Char) := do
  let (least, rest) ← readCount verbose (skipBlank verbose text)
  match rest with
  | '}' :: rest => return (⟨least, some least⟩, rest)
  | ',' :: rest =>
      match skipBlank verbose rest with
      | '}' :: rest => return (⟨least, none⟩, rest)
      | rest =>
          let (most, rest) ← readCount verbose rest
          match rest with
          | '}' :: rest =>
              if least ≤ most then return (⟨least, some most⟩, rest)
              else throw .repetitionCounts
          | _ => throw .repetitionCounts
  | _ => throw .repetitionCounts

def readLazy (text : List Char) : Bool × List Char :=
  match text with
  | '?' :: rest => (false, rest)
  | text => (true, text)

def readPart (state : Progress) : List Char → Except Fault (Progress × List Char)
  | [] => .ok (state, [])
  | '(' :: rest => readGroup state rest
  | ')' :: rest => do return (← state.closeGroup, rest)
  | '|' :: rest => .ok (state.nextBranch, rest)
  | '[' :: rest => do
      let (tree, rest) ← readClass state.verbose rest
      let depth := match tree with
        | .bracketed _ inner => inner.depth + 1
        | _ => 0
      return (state.push (← Part.checkDepth ⟨tree, depth⟩), rest)
  | '?' :: rest => do
      let (greedy, rest) := readLazy rest
      return (← state.repeatLast ⟨0, some 1⟩ greedy, rest)
  | '*' :: rest => do
      let (greedy, rest) := readLazy rest
      return (← state.repeatLast ⟨0, none⟩ greedy, rest)
  | '+' :: rest => do
      let (greedy, rest) := readLazy rest
      return (← state.repeatLast ⟨1, none⟩ greedy, rest)
  | '{' :: rest => do
      let (counts, rest) ← readCounts state.verbose rest
      let (greedy, rest) := readLazy (skipBlank state.verbose rest)
      return (← state.repeatLast counts greedy, rest)
  | '\\' :: rest => do
      let (atom, rest) ← readEscape state.verbose rest
      return (state.push (.ofAtom atom), rest)
  | '.' :: rest => .ok (state.push (.ofAtom .dot), rest)
  | '^' :: rest => .ok (state.push (.ofAtom (.assertion .lineStart)), rest)
  | '$' :: rest => .ok (state.push (.ofAtom (.assertion .lineEnd)), rest)
  | c :: rest => .ok (state.push (.ofAtom (.char c false)), rest)

/-- Read parts up to the end of the text.  Every part is at least one character long. -/
def readParts : (steps : Nat) → Progress → List Char → Except Fault Progress
  | 0, state, _ => .ok state
  | steps + 1, state, text =>
      match skipBlank state.verbose text with
      | [] => .ok state
      | text =>
          match readPart state text with
          | .error fault => .error fault
          | .ok (state, rest) => readParts steps state rest

/-- The tree of a complete expression: every group is closed and the nesting is within the limit. -/
def Progress.finish (state : Progress) : Except Fault Tree :=
  if state.openGroups.isEmpty then (state.content.checkDepth).map (·.tree)
  else .error .groupNotClosed

def Tree.ofText? (text : List Char) : Except Fault Tree :=
  match readParts text.length .start text with
  | .error fault => .error fault
  | .ok state => state.finish

end LogPattern.Regex
