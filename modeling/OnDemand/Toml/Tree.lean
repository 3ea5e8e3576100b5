import OnDemand.Toml.Value

/-!
# Tables of TOML documents

A document builds its tables line by line. A table is opened by a heading, by the
headings of tables within it, or by the dots of a key, and how it was opened says
who may add to it: a heading opens a table once, a key with dots adds only to
tables that keys with dots have opened, and a value is never opened again.
-/

namespace OnDemand.Toml

/-- How a table was opened. -/
inductive Opening where
  /-- By the heading of a table within it. -/
  | implied
  /-- By the dots of a key. -/
  | dotted
  /-- By a heading of its own. -/
  | heading
  deriving Repr, DecidableEq

/-- A value, a table, or tables of the same name. -/
inductive Node where
  | value (value : TomlValue)
  | table (opening : Opening) (entries : List (String × Node))
  /-- The last of the tables can be added to. -/
  | tables (earlier : List (List (String × Node))) (last : List (String × Node))

/-- The entries of a table. -/
abbrev Entries := List (String × Node)

namespace Entries

/-- Put a node in the place of the one with the same key. -/
def replace (entries : Entries) (key : String) (node : Node) : Entries :=
  entries.map fun entry => if entry.1 = key then (key, node) else entry

/-- Change the table at the end of a path, opening tables on the way. -/
def descend (dotted : Bool) (change : Opening → Entries → Option Entries) :
    List String → Opening → Entries → Option Entries
  | [], opening, entries => change opening entries
  | key :: path, _, entries =>
      match entries.lookup key with
      | none => do
          let opening := if dotted then Opening.dotted else .implied
          let inner ← descend dotted change path opening []
          return entries ++ [(key, .table opening inner)]
      | some (.table opening inner) =>
          if dotted && opening = .heading then none
          else do
            let inner ← descend dotted change path opening inner
            return replace entries key (.table opening inner)
      | some (.tables earlier last) => do
          let last ← descend dotted change path .heading last
          return replace entries key (.tables earlier last)
      | some (.value _) => none

/-- Add a value under a key with dots. -/
def addValue (path : List String) (key : String) (value : TomlValue) (opening : Opening)
    (entries : Entries) : Option Entries :=
  descend true
    (fun opening entries =>
      if (opening = .dotted) = path.isEmpty then none
      else if (entries.lookup key).isSome then none
      else some (entries ++ [(key, .value value)]))
    path opening entries

/-- Open a table by a heading. -/
def openTable (key : String) (_ : Opening) (entries : Entries) : Option Entries :=
  match entries.lookup key with
  | none => some (entries ++ [(key, .table .heading [])])
  | some (.table .implied inner) => some (replace entries key (.table .heading inner))
  | some _ => none

/-- Open one more of the tables of a name. -/
def openNextTable (key : String) (_ : Opening) (entries : Entries) : Option Entries :=
  match entries.lookup key with
  | none => some (entries ++ [(key, .tables [] [])])
  | some (.tables earlier last) => some (replace entries key (.tables (earlier ++ [last]) []))
  | some _ => none

end Entries

mutual

/-- What a node says. -/
def Node.toValue : Node → TomlValue
  | .value value => value
  | .table _ entries => .table (entryValues entries)
  | .tables earlier last => .array (tableValues earlier ++ [.table (entryValues last)])

def entryValues : List (String × Node) → List (String × TomlValue)
  | [] => []
  | (key, node) :: rest => (key, node.toValue) :: entryValues rest

def tableValues : List (List (String × Node)) → List TomlValue
  | [] => []
  | entries :: rest => .table (entryValues entries) :: tableValues rest

end

end OnDemand.Toml
