import CrossCall.Data.Basic

/-!
# Tables of configuration files

A file builds up a tree of tables. A header opens a table once; the tables on the way to it may be
named before or after. A key with dots makes tables that only keys with dots may extend.

## Main definitions

* `Toml.Node` — what stands under a name while a file is read
* `Toml.assign`, `Toml.openTable`, `Toml.openRow` — what the lines of a file do
* `Toml.toData` — the finished tree
-/

namespace CrossCall.Toml

/-- How a table came about. -/
inductive Origin
  /-- On the way to a table with a header. -/
  | implied
  /-- By a key with dots. -/
  | dotted
  /-- By its own header. -/
  | header
deriving DecidableEq

/-- What stands under a name: a value, a table, or the tables of a repeated header. -/
inductive Node
  | value (d : Data)
  | table (origin : Origin) (entries : List (String × Node))
  | rows (rows : List (List (String × Node)))

/-- The names of a table with what stands under them. -/
abbrev Entries := List (String × Node)

/-- Changes what stands under a name, or refuses. -/
def update (name : String) (change : Option Node → Option Node) : Entries → Option Entries
  | [] => (change none).map fun node => [(name, node)]
  | (other, node) :: rest =>
    if other = name then (change (some node)).map fun node' => (name, node') :: rest
    else (update name change rest).map fun rest' => (other, node) :: rest'

/-- Changes the last of several rows. -/
def updateLast (change : Entries → Option Entries) : List Entries → Option (List Entries)
  | [] => none
  | [row] => (change row).map fun row' => [row']
  | row :: rows => (updateLast change rows).map fun rows' => row :: rows'

/-- Changes the table that a header names. -/
def atHeader : (path : List String) → (Entries → Option Entries) → Entries → Option Entries
  | [], change => change
  | name :: path, change =>
    update name fun
      | none => (atHeader path change []).map (.table .implied)
      | some (.table origin entries) => (atHeader path change entries).map (.table origin)
      | some (.rows rows) => (updateLast (atHeader path change) rows).map .rows
      | some (.value _) => none

/-- Changes the table that the names of a dotted key but its last lead to. It has to be the table
itself or one made by such keys. -/
def atDotted : (path : List String) → (Entries → Option Entries) → Entries → Option Entries
  | [], change => change
  | name :: path, change =>
    update name fun
      | none => (atDotted path change []).map (.table .dotted)
      | some (.table .dotted entries) => (atDotted path change entries).map (.table .dotted)
      | some (.table .implied entries) =>
        if path.isEmpty then none else (atDotted path change entries).map (.table .implied)
      | some (.rows rows) =>
        if path.isEmpty then none else (updateLast (atDotted path change) rows).map .rows
      | some (.table .header _) | some (.value _) => none

/-- Puts a value under a new name. -/
def define (name : String) (d : Data) : Entries → Option Entries :=
  update name fun
    | none => some (.value d)
    | some _ => none

/-- Splits a path into the way and the last name. -/
def splitLast : List String → Option (List String × String)
  | [] => none
  | [name] => some ([], name)
  | name :: path => (splitLast path).map fun (way, last) => (name :: way, last)

/-- Puts a value under a dotted key. -/
def assign (key : List String) (d : Data) (entries : Entries) : Option Entries := do
  let (way, last) ← splitLast key
  atDotted way (define last d) entries

/-- Opens the table of a header. -/
def openTable (path : List String) (entries : Entries) : Option Entries := do
  let (way, last) ← splitLast path
  atHeader way (update last fun
    | none => some (.table .header [])
    | some (.table .implied inner) => some (.table .header inner)
    | some _ => none) entries

/-- Adds a row to the tables of a repeated header. -/
def openRow (path : List String) (entries : Entries) : Option Entries := do
  let (way, last) ← splitLast path
  atHeader way (update last fun
    | none => some (.rows [[]])
    | some (.rows rows) => some (.rows (rows ++ [[]]))
    | some _ => none) entries

mutual

/-- What stands under a name in the finished tree. -/
def Node.toData : Node → Data
  | .value d => d
  | .table _ entries => .record (entriesToData entries)
  | .rows rows => .list (rowsToData rows)

/-- The fields of a table. -/
def entriesToData : List (String × Node) → Fields
  | [] => []
  | (name, node) :: rest => (name, node.toData) :: entriesToData rest

/-- The records of several rows. -/
def rowsToData : List (List (String × Node)) → List Data
  | [] => []
  | row :: rows => .record (entriesToData row) :: rowsToData rows

end

end CrossCall.Toml
