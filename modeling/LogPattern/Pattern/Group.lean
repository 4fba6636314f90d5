/-!
# Groups of fragments

A fragment of a regular expression may use groups of its own, but only tokens may
capture.  So every opener of a capturing group is replaced by the opener of a plain
one.  A parenthesis after a backslash or inside brackets opens nothing and stays.
-/

namespace LogPattern

/--
Where a scan through a fragment stands: right after a backslash, inside so many
brackets, and how many characters ahead of the place where a closing bracket would
stand for itself.
-/
structure ScanState where
  escaped : Bool
  classDepth : Nat
  toClassStart : Nat
deriving DecidableEq, Repr

namespace ScanState

def start : ScanState := ⟨false, 0, 0⟩

/-- At the first member of a class, which a closing bracket cannot end. -/
def atClassStart (state : ScanState) : Bool := state.toClassStart = 1

def next (state : ScanState) (c : Char) (rest : List Char) : ScanState :=
  let ahead := state.toClassStart - 1
  if state.escaped then { state with escaped := false, toClassStart := ahead }
  else if c = '\\' then { state with escaped := true, toClassStart := ahead }
  else if c = '[' then
    ⟨false, state.classDepth + 1, if rest.head? = some '^' then 2 else 1⟩
  else if c = ']' ∧ state.classDepth > 0 ∧ !state.atClassStart then
    ⟨false, state.classDepth - 1, ahead⟩
  else { state with toClassStart := ahead }

def opensGroup (state : ScanState) (c : Char) : Bool :=
  c = '(' && !state.escaped && state.classDepth = 0

end ScanState

/-- What follows an opening parenthesis says which kind of group it opens. -/
inductive Opener where
  /-- A numbered group: the parenthesis alone. -/
  | bare
  /-- A named group: the parenthesis and everything up to the end of the name. -/
  | named
  | plain
deriving DecidableEq, Repr

def openerKind : List Char → Opener
  | '?' :: 'P' :: '<' :: rest => if rest.contains '>' then .named else .plain
  | '?' :: '<' :: '=' :: _ => .plain
  | '?' :: '<' :: '!' :: _ => .plain
  | '?' :: '<' :: rest => if rest.contains '>' then .named else .plain
  | '?' :: _ => .plain
  | _ => .bare

/-- The opener of a plain group, last character first. -/
def plainOpenerReversed : List Char := [':', '?', '(']

/--
Replace openers from a place on.  `inName` says that the rest of a replaced opener
is being passed over, and `done` holds the result so far, last first.
-/
def neutralizeFrom (state : ScanState) (inName : Bool) (done : List Char) :
    List Char → List Char
  | [] => done.reverse
  | c :: rest =>
      if inName then neutralizeFrom state (c != '>') done rest
      else if state.opensGroup c then
        match openerKind rest with
        | .bare => neutralizeFrom (state.next c rest) false (plainOpenerReversed ++ done) rest
        | .named => neutralizeFrom (state.next c rest) true (plainOpenerReversed ++ done) rest
        | .plain => neutralizeFrom (state.next c rest) false (c :: done) rest
      else neutralizeFrom (state.next c rest) false (c :: done) rest

/-- The fragment with every capturing group made a plain one. -/
def neutralizeGroups (fragment : List Char) : List Char := neutralizeFrom .start false [] fragment

end LogPattern
