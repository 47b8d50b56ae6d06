import CrudForge.Settings.Value

/-!
# Tables of a TOML document

The statements of a document build a tree. A table is defined once, by a header or by the keys with
dots that lead into it, and no key is given twice.

## Main definitions

* `Toml.Node` — a value or a table that is still open.
* `Toml.Statement` — a pair of key and value, or a header.
* `Toml.Tree.add?` — the tree after one more statement, if the statement is allowed.
* `Toml.Node.toValue` — the value of a finished tree.
-/

namespace CrudForge.Toml

open Settings (Value)

/-- How a table came to be: by its own header, on the way to another table, or by keys with dots. -/
inductive TableState
  | defined
  | passed
  | dotted
  deriving DecidableEq

/-- A node of the tree. The elements of a list of tables are tables. -/
inductive Node
  | value (v : Value)
  | table (state : TableState) (members : List (String × Node))
  | tables (elements : List Node)

abbrev Members := List (String × Node)

inductive Statement
  | pair (keys : List String) (v : Value)
  | header (keys : List String)
  | listHeader (keys : List String)

namespace Node

mutual

def toValue : Node → Value
  | value v => v
  | table _ members => .table (toMembers members)
  | tables elements => .list (toValues elements)

def toMembers : List (String × Node) → List (String × Value)
  | [] => []
  | (key, node) :: rest => (key, toValue node) :: toMembers rest

def toValues : List Node → List Value
  | [] => []
  | node :: rest => toValue node :: toValues rest

end

end Node

namespace Members

/-- Sets a member, in the place of the one of its key or at the end. -/
def set (key : String) (node : Node) : Members → Members
  | [] => [(key, node)]
  | (k, n) :: members =>
    if k = key then (key, node) :: members else (k, n) :: set key node members

def lastTable? (elements : List Node) : Option Members :=
  match elements.getLast? with
  | some (.table _ members) => some members
  | _ => none

/-- Changes the members of the table that the keys lead to. Tables that are missing on the way are
made with the state `made`. Keys with dots do not lead into a table with a header, and only headers
lead into a list of tables as a rule: there the last table is meant. -/
def modify? (made : TableState) (f : TableState → Members → Option Members) (state : TableState) :
    List String → Members → Option Members
  | [], members => f state members
  | key :: keys, members =>
    match members.lookup key with
    | none => do
      let inner ← modify? made f made keys []
      some (set key (.table made inner) members)
    | some (.table state inner) =>
      if made = .dotted && state = .defined then none
      else do
        let inner ← modify? made f state keys inner
        some (set key (.table state inner) members)
    | some (.tables elements) => do
      let inner ← lastTable? elements
      let inner ← modify? made f .defined keys inner
      some (set key (.tables (elements.dropLast ++ [.table .defined inner])) members)
    | some (.value _) => none

/-- Adds a member whose key is new. -/
def addNew? (key : String) (v : Value) (members : Members) : Option Members :=
  if (members.lookup key).isSome then none else some (members ++ [(key, .value v)])

/-- Gives a value to a key, where all but the last part of the key lead into tables of keys with
dots. -/
def assign? (keys : List String) (v : Value) (members : Members) : Option Members := do
  let key ← keys.getLast?
  let path := keys.dropLast
  let add (state : TableState) (inner : Members) : Option Members :=
    if path.isEmpty || state = .dotted then addNew? key v inner else none
  modify? .dotted add .defined path members

/-- Defines the table of a header. It is new, or was passed on the way to another table. -/
def define? (key : String) (members : Members) : Option Members :=
  match members.lookup key with
  | none => some (set key (.table .defined []) members)
  | some (.table .passed inner) => some (set key (.table .defined inner) members)
  | some _ => none

/-- Adds a table to the list of tables of a header. -/
def extend? (key : String) (members : Members) : Option Members :=
  match members.lookup key with
  | none => some (set key (.tables [.table .defined []]) members)
  | some (.tables elements) => some (set key (.tables (elements ++ [.table .defined []])) members)
  | some _ => none

end Members

/-- The tree so far, and the keys of the table that pairs go into. -/
structure Tree where
  members : Members
  here : List String

namespace Tree

def empty : Tree := ⟨[], []⟩

/-- Changes the table of a header, all but the last of whose keys are passed. -/
def open? (change : String → Members → Option Members) (keys : List String) (tree : Tree) :
    Option Tree := do
  let key ← keys.getLast?
  let members ← Members.modify? .passed (fun _ => change key) .defined keys.dropLast tree.members
  some ⟨members, keys⟩

def add? (tree : Tree) : Statement → Option Tree
  | .pair keys v => do
    let members ←
      Members.modify? .passed (fun _ => Members.assign? keys v) .defined tree.here tree.members
    some { tree with members }
  | .header keys => tree.open? Members.define? keys
  | .listHeader keys => tree.open? Members.extend? keys

def toValue (tree : Tree) : Value :=
  (Node.table .defined tree.members).toValue

end Tree

def value? (statements : List Statement) : Option Value :=
  (statements.foldlM Tree.add? Tree.empty).map Tree.toValue

end CrudForge.Toml
