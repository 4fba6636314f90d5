import LogPattern.Yaml.Token

/-!
# YAML nodes

The tokens of a document form a tree.  A node may have a tag, and an anchor by which
an alias can stand for it elsewhere.
-/

namespace LogPattern.Yaml

inductive Node where
  | scalar (tag : Option String) (plain : Bool) (text : String)
  | sequence (tag : Option String) (items : List Node)
  | mapping (tag : Option String) (pairs : List (Node × Node))
  | anchored (anchor : Nat)

namespace Node

def empty : Node := scalar none true ""

end Node

def nestLimit : Nat := 128

structure Reading where
  tokens : List Token
  handles : List (String × String)
  anchors : List (String × Nat)
  /-- The anchored nodes in the order of their starts; of those begun there is no node yet. -/
  anchored : Array (Nat × Option Node)

/-- A step of reading, which may find that the tokens form no tree. -/
abbrev Read (α : Type) := StateT Reading Option α

namespace Read

def usualHandles : List (String × String) := [("!", "!"), ("!!", "tag:yaml.org,2002:")]

def peek : Read (Option Token) := fun state => some (state.tokens.head?, state)

def skip : Read Unit := fun state => some ((), { state with tokens := state.tokens.drop 1 })

/-- Pass over the next token, and see the one after it. -/
def advance : Read (Option Token) := do
  skip
  peek

def beginAnchor (name? : Option String) : Read (Option Nat) := fun state =>
  match name? with
  | none => some (none, state)
  | some name =>
      let number := state.anchors.length
      let others := state.anchors.filter (·.1 != name)
      some (some state.anchored.size, { state with
        anchors := (name, number) :: others
        anchored := state.anchored.push (number, none) })

def finish (place? : Option Nat) (node : Node) : Read Node := fun state =>
  match place? with
  | none => some (node, state)
  | some place => some (node, { state with
      anchored := state.anchored.modify place fun entry => (entry.1, some node) })

def anchorNumber (name : String) : Read Nat := fun state =>
  (state.anchors.lookup name).map (·, state)

def resolveTag (mark? : Option TagMark) : Read (Option String) := fun state =>
  match mark? with
  | none => some (none, state)
  | some mark =>
      if mark.handle.isEmpty then some (some mark.suffix, state)
      else (state.handles.lookup mark.handle).map fun uri => (some (uri ++ mark.suffix), state)

/-- The anchor and tag in front of a node, in either order. -/
def properties : Read (Option String × Option TagMark) := do
  match ← peek with
  | some (.anchor name) =>
      match ← advance with
      | some (.tag mark) => skip; return (some name, some mark)
      | _ => return (some name, none)
  | some (.tag mark) =>
      match ← advance with
      | some (.anchor name) => skip; return (some name, some mark)
      | _ => return (none, some mark)
  | _ => return (none, none)

/-- How to read a node: in block context, and where a sequence need not be indented. -/
structure Context where
  block : Bool
  indentless : Bool

def Context.inBlock : Context := ⟨true, false⟩

def Context.inMapping : Context := ⟨true, true⟩

def Context.inFlow : Context := ⟨false, false⟩

abbrev Inner := Context → Read Node

/-- Read a node, unless the next token is one of those that can follow an empty one. -/
def orEmpty (inner : Inner) (context : Context) (ends : Token → Bool) : Read Node := do
  match ← peek with
  | some token => if ends token then return .empty else inner context
  | none => inner context

/-- Read the items of a block sequence; `done` is last first. -/
def blockItems (inner : Inner) : (fuel : Nat) → (done : List Node) → Read (List Node)
  | 0, _ => failure
  | fuel + 1, done => do
      match ← peek with
      | some .blockEntry =>
          skip
          let item ← orEmpty inner .inBlock fun token => token = .blockEntry || token = .blockEnd
          blockItems inner fuel (item :: done)
      | some .blockEnd =>
          skip
          return done.reverse
      | _ => failure

/-- Read the items of a sequence that is not indented; `done` is last first. -/
def indentlessItems (inner : Inner) : (fuel : Nat) → (done : List Node) → Read (List Node)
  | 0, _ => failure
  | fuel + 1, done => do
      match ← peek with
      | some .blockEntry =>
          skip
          let item ← orEmpty inner .inBlock fun token =>
            token = .blockEntry || token = .key || token = .value || token = .blockEnd
          indentlessItems inner fuel (item :: done)
      | _ => return done.reverse

def pairValue (inner : Inner) (context : Context) (ends : Token → Bool) : Read Node := do
  match ← peek with
  | some .value =>
      skip
      orEmpty inner context ends
  | _ => return .empty

def blockPairs (inner : Inner) :
    (fuel : Nat) → (done : List (Node × Node)) → Read (List (Node × Node))
  | 0, _ => failure
  | fuel + 1, done => do
      let ends (token : Token) : Bool := token = .key || token = .value || token = .blockEnd
      match ← peek with
      | some .key =>
          skip
          let key ← orEmpty inner .inMapping ends
          let value ← pairValue inner .inMapping ends
          blockPairs inner fuel ((key, value) :: done)
      | some .blockEnd =>
          skip
          return done.reverse
      | _ => failure

def flowPair (inner : Inner) : Read Node := do
  let ends (token : Token) : Bool := token = .flowEntry || token = .flowSequenceEnd
  let key ← match ← peek with
    | some token =>
        if token = .value || ends token then do
          skip
          pure Node.empty
        else inner .inFlow
    | none => failure
  let value ← pairValue inner .inFlow ends
  return .mapping none [(key, value)]

/--
Read the items of a sequence in brackets; `done` is last first, and a comma stands
before the next item unless `first` says that none has come before.
-/
def flowItems (inner : Inner) :
    (fuel : Nat) → (first : Bool) → (done : List Node) → Read (List Node)
  | 0, _, _ => failure
  | fuel + 1, first, done => do
      let token ← match ← peek with
        | some .flowEntry => if first then peek else advance
        | some .flowSequenceEnd => peek
        | _ => if first then peek else failure
      match token with
      | some .flowSequenceEnd =>
          skip
          return done.reverse
      | some .key =>
          skip
          let pair ← flowPair inner
          flowItems inner fuel false (pair :: done)
      | _ =>
          let item ← inner .inFlow
          flowItems inner fuel false (item :: done)

def flowPairs (inner : Inner) :
    (fuel : Nat) → (first : Bool) → (done : List (Node × Node)) → Read (List (Node × Node))
  | 0, _, _ => failure
  | fuel + 1, first, done => do
      let ends (token : Token) : Bool := token = .flowEntry || token = .flowMappingEnd
      let token ← match ← peek with
        | some .flowEntry => if first then peek else advance
        | some .flowMappingEnd => peek
        | _ => if first then peek else failure
      match token with
      | some .flowMappingEnd =>
          skip
          return done.reverse
      | some .key =>
          skip
          let key ← orEmpty inner .inFlow fun token => token = .value || ends token
          let value ← pairValue inner .inFlow ends
          flowPairs inner fuel false ((key, value) :: done)
      | _ =>
          let key ← inner .inFlow
          flowPairs inner fuel false ((key, .empty) :: done)

/-- Read a node whose parts are read by `inner?`; without it the node may have no parts. -/
def nodeWith (limit : Nat) (inner? : Option Inner) (context : Context) : Read Node := do
  if let some (.aliasOf name) ← peek then
    skip
    return .anchored (← anchorNumber name)
  let (anchor?, mark?) ← properties
  let tag ← resolveTag mark?
  let place? ← beginAnchor anchor?
  let token ← peek
  let node ← match token with
    | some (.scalar text plain) => do
        skip
        pure (.scalar (if tag = some "!" then none else tag) plain text)
    | _ =>
        let sequenceOf (items : Inner → Read (List Node)) : Read Node := do
          match inner? with
          | some inner => return .sequence tag (← items inner)
          | none => failure
        let mappingOf (pairs : Inner → Read (List (Node × Node))) : Read Node := do
          match inner? with
          | some inner => return .mapping tag (← pairs inner)
          | none => failure
        if context.indentless && token = some .blockEntry then
          sequenceOf (indentlessItems · limit [])
        else if token = some .flowSequenceStart then do
          skip
          sequenceOf (flowItems · limit true [])
        else if token = some .flowMappingStart then do
          skip
          mappingOf (flowPairs · limit true [])
        else if context.block && token = some .blockSequenceStart then do
          skip
          sequenceOf (blockItems · limit [])
        else if context.block && token = some .blockMappingStart then do
          skip
          mappingOf (blockPairs · limit [])
        else if anchor?.isSome || mark?.isSome then pure (.scalar tag true "")
        else failure
  finish place? node

def node (limit : Nat) : (depth : Nat) → Inner
  | 0 => nodeWith limit none
  | depth + 1 => nodeWith limit (some (node limit depth))

def directives : (fuel : Nat) → (versionSeen : Bool) → Read Unit
  | 0, _ => failure
  | fuel + 1, versionSeen => do
      match ← peek with
      | some (.directive (.version major minor)) =>
          if versionSeen || major != 1 || (minor != 1 && minor != 2) then failure
          else
            skip
            directives fuel true
      | some (.directive (.handle handle uri)) =>
          let state ← get
          if (state.handles.lookup handle).isSome then failure
          else
            set { state with handles := (handle, uri) :: state.handles }
            skip
            directives fuel versionSeen
      | _ => return ()

def addUsualHandles : Read Unit := modify fun state =>
  { state with handles := state.handles ++ usualHandles }

def finished (tokens : List Token) : Bool := tokens.all (· = .documentEnd)

def markedContent (limit : Nat) : Read Node := do
  match ← peek with
  | none => return .empty
  | some .documentStart => return .empty
  | some .documentEnd => return .empty
  | some (.directive _) => return .empty
  | some _ => node limit nestLimit .inBlock

def document (limit : Nat) : Read Node := do
  match ← peek with
  | some (.directive _) =>
      directives limit false
      addUsualHandles
      match ← peek with
      | some .documentStart =>
          skip
          markedContent limit
      | _ => failure
  | some .documentStart =>
      addUsualHandles
      skip
      markedContent limit
  | _ =>
      addUsualHandles
      node limit nestLimit .inBlock

end Read

/-- A tree with its anchored nodes; of two with one number the later one counts. -/
structure Document where
  root : Node
  anchored : List (Nat × Node)

/-- The only document of a text: nothing if the text is malformed, or has several. -/
def Document.ofText? (text : List Char) : Option (Option Document) := do
  let tokens ← Token.ofText? text
  if tokens.isEmpty then return none
  else
    let (root, state) ← (Read.document (tokens.length + 1)).run ⟨tokens, [], [], #[]⟩
    if Read.finished state.tokens then
      let anchored := state.anchored.toList.reverse.filterMap fun (number, node?) =>
        node?.map (number, ·)
      return some ⟨root, anchored⟩
    else none

end LogPattern.Yaml
