import Repricing.Json.Basic

/-!
# TOML: tables

A document is a tree of tables. A table is defined once: by its own header, or by dotted keys. A header
for a table further down may come before its own.
-/

namespace Repricing.Toml

/-- How a table came about. -/
inductive Origin where
  /-- By its own header. -/
  | header
  /-- By the header of a table further down. -/
  | implied
  /-- By a dotted key. -/
  | dotted
deriving DecidableEq, Repr

/-- A node of the tree. -/
inductive Node where
  | value (v : Json)
  | table (origin : Origin) (entries : List (String × Node))
  /-- An array of tables, the last one first. -/
  | tables (last : List (String × Node)) (before : List (List (String × Node)))

/-- The entries of a table. -/
abbrev Entries := List (String × Node)

namespace Entries

/-- The entries with another node under a key that is there already. -/
def replace (entries : Entries) (key : String) (node : Node) : Entries :=
  entries.map fun entry => if entry.1 == key then (key, node) else entry

/-- The entries with one more, under a key that is not there yet. -/
def add? (entries : Entries) (key : String) (node : Node) : Option Entries :=
  if (entries.lookup key).isSome then none else some (entries ++ [(key, node)])

/-- Changes the table at the end of a path. Tables that are missing on the way are created. Of an array
of tables the last one is meant. A dotted key leads through no table that has a header. -/
def change (dotted : Bool) (f : Origin → Entries → Option Entries) :
    (path : List String) → Origin → Entries → Option Entries
  | [], origin, entries => f origin entries
  | key :: path, _, entries =>
    let created := if dotted then Origin.dotted else .implied
    match entries.lookup key with
    | none => (change dotted f path created []).map fun sub => entries ++ [(key, .table created sub)]
    | some (.value _) => none
    | some (.tables last before) =>
      (change dotted f path .header last).map fun last => entries.replace key (.tables last before)
    | some (.table origin sub) =>
      if dotted ∧ origin = .header then none
      else (change dotted f path origin sub).map fun sub => entries.replace key (.table origin sub)

/-- Sets the value of a dotted key, counted from a table. The last table on its way is one that dotted
keys have made, or else the table itself. -/
def assign? (path : List String) (key : String) (v : Json) (origin : Origin) (entries : Entries) :
    Option Entries :=
  change true (fun origin entries =>
    if decide (origin = .dotted) = path.isEmpty then none else entries.add? key (.value v))
    path origin entries

/-- Defines a table by its header. -/
def openTable? (path : List String) (key : String) (root : Entries) : Option Entries :=
  change false (fun _ entries =>
    match entries.lookup key with
    | none => entries.add? key (.table .header [])
    | some (.table .implied sub) => some (entries.replace key (.table .header sub))
    | some _ => none) path .header root

/-- Adds a table to an array of tables. -/
def openElement? (path : List String) (key : String) (root : Entries) : Option Entries :=
  change false (fun _ entries =>
    match entries.lookup key with
    | none => entries.add? key (.tables [] [])
    | some (.tables last before) => some (entries.replace key (.tables [] (last :: before)))
    | some _ => none) path .header root

end Entries

mutual

/-- The value that a node stands for. -/
def Node.toJson : Node → Json
  | .value v => v
  | .table _ entries => .obj (entriesToJson entries)
  | .tables last before => .arr (elementsToJson before [.obj (entriesToJson last)])

/-- The entries of a table as values. -/
def entriesToJson : List (String × Node) → List (String × Json)
  | [] => []
  | (key, node) :: rest => (key, node.toJson) :: entriesToJson rest

/-- The tables of an array, from the last to the first, in front of the values after them. -/
def elementsToJson : List (List (String × Node)) → List Json → List Json
  | [], after => after
  | entries :: before, after => elementsToJson before (.obj (entriesToJson entries) :: after)

end

end Repricing.Toml
