import LogPattern.Toml.Statement

/-!
# TOML documents

The statements of a document fill a table.  Every table is defined once: by its
header, by dotted keys, or in braces.  A table that a header only passes through
may still get a header of its own.
-/

namespace LogPattern.Toml

inductive TableOrigin where
  | header
  /-- On the way of a header to another table. -/
  | passage
  | dottedKey
deriving DecidableEq, Repr

inductive Node where
  | leaf (value : Value)
  | table (origin : TableOrigin) (members : List (String × Node))
  /-- An array of tables: the last one, which is being filled, and those before it. -/
  | tables (before : List (List (String × Node))) (members : List (String × Node))

namespace Node

mutual

def toValue : Node → Value
  | leaf value => value
  | table _ members => .table (membersToValues members)
  | tables before members =>
      .array (tablesToValues before ++ [.table (membersToValues members)])

def membersToValues : List (String × Node) → List (String × Value)
  | [] => []
  | (name, node) :: rest => (name, toValue node) :: membersToValues rest

def tablesToValues : List (List (String × Node)) → List Value
  | [] => []
  | members :: rest => .table (membersToValues members) :: tablesToValues rest

end

end Node

abbrev Members := List (String × Node)

namespace Members

def put (members : Members) (name : String) (node : Node) : Members :=
  match members with
  | [] => [(name, node)]
  | member :: rest =>
      if member.1 = name then (name, node) :: rest else member :: put rest name node

def add? (members : Members) (name : String) (node : Node) : Option Members :=
  if (members.lookup name).isSome then none else some (members ++ [(name, node)])

/--
Change the table that a dotted key leads to.  Tables on the way are made; those
that are there must come from dotted keys, or from the passage of a header if it
does not end there.
-/
def changeDotted (change : Members → Option Members) :
    List String → Members → Option Members
  | [], members => change members
  | key :: rest, members =>
      match members.lookup key with
      | none => (changeDotted change rest []).map fun inner =>
          members.put key (.table .dottedKey inner)
      | some (.table origin inner) =>
          if origin = .header || (origin = .passage && rest.isEmpty) then none
          else (changeDotted change rest inner).map fun inner =>
            members.put key (.table origin inner)
      | some (.tables before inner) =>
          if rest.isEmpty then none
          else (changeDotted change rest inner).map fun inner =>
            members.put key (.tables before inner)
      | some (.leaf _) => none

/-- Change the table that a header leads to.  Tables on the way are made. -/
def changeHeaded (change : Members → Option Members) :
    List String → Members → Option Members
  | [], members => change members
  | key :: rest, members =>
      match members.lookup key with
      | none => (changeHeaded change rest []).map fun inner =>
          members.put key (.table .passage inner)
      | some (.table origin inner) =>
          (changeHeaded change rest inner).map fun inner => members.put key (.table origin inner)
      | some (.tables before inner) =>
          (changeHeaded change rest inner).map fun inner => members.put key (.tables before inner)
      | some (.leaf _) => none

/-- Assign a value to a key in the table itself. -/
def assign? (path : Path) (value : Value) (members : Members) : Option Members :=
  changeDotted (fun members => members.add? path.last (.leaf value)) path.init members

def define? (path : Path) : Members → Option Members :=
  changeHeaded (fun members =>
    match members.lookup path.last with
    | none => some (members.put path.last (.table .header []))
    | some (.table .passage inner) => some (members.put path.last (.table .header inner))
    | some _ => none) path.init

def beginItem? (path : Path) : Members → Option Members :=
  changeHeaded (fun members =>
    match members.lookup path.last with
    | none => some (members.put path.last (.tables [] []))
    | some (.tables before inner) => some (members.put path.last (.tables (before ++ [inner]) []))
    | some _ => none) path.init

end Members

def inlineTable? (assignments : List (Path × Value)) : Option Value :=
  (assignments.foldlM (fun members assignment => Members.assign? assignment.1 assignment.2 members)
    ([] : Members)).map fun members => .table (Node.membersToValues members)

/-- Follow statements; assignments belong to the table of the last header. -/
def fill? (header : List String) (members : Members) : List Statement → Option Members
  | [] => some members
  | .header path :: rest => (Members.define? path members).bind (fill? path.keys · rest)
  | .itemHeader path :: rest => (Members.beginItem? path members).bind (fill? path.keys · rest)
  | .assignment path value :: rest =>
      (Members.changeHeaded (Members.assign? path value) header members).bind (fill? header · rest)

def document? (text : String) : Option (List (String × Value)) :=
  let text := match text.toList with
    | '\ufeff' :: rest => rest
    | all => all
  let limit := text.length + 1
  match Statement.readAll inlineTable? limit limit [] text with
  | some statements => (fill? [] [] statements).map Node.membersToValues
  | none => none

end LogPattern.Toml
