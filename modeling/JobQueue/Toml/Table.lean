import JobQueue.Settings.Layers

/-!
# Tables of a TOML text

A table of a TOML text is built up statement by statement, and it matters how it came to be: a table
that has a header of its own cannot get another, one that was made by a key with points can be
added to by such keys only, and one that was written inside braces is closed. `Node` keeps how.

* `define` puts a value under a key with points.
* `openTable` and `openItem` make the table of a header, and `withinTable` works in it.
-/

namespace JobQueue.Toml

open Settings (Value)

/-- How a table came to be. -/
inductive Origin where
  /-- On the way to the table of a longer header. -/
  | passed
  /-- By a header of its own. -/
  | header
  /-- By a key with points. -/
  | dotted
  deriving DecidableEq

/-- What stands under a key. -/
inductive Node where
  /-- A value that nothing is added to. -/
  | closed (v : Value)
  | table (origin : Origin) (entries : List (String × Node))
  /-- Tables with a header each, of which the last is added to. -/
  | tables (earlier : List (List (String × Node))) (last : List (String × Node))

/-- The entries of a table. -/
abbrev Entries := List (String × Node)

namespace Entries

/-- What stands under a key. -/
def find? (name : String) (entries : Entries) : Option Node :=
  (List.find? (fun e => e.1 = name) entries).map (·.2)

/-- Puts a node under a key, in the place of the one that was there. -/
def put (name : String) (node : Node) : Entries → Entries
  | [] => [(name, node)]
  | e :: rest => if e.1 = name then (name, node) :: rest else e :: put name node rest

end Entries

/-- Works on the entries of the table under a key, which is made if there is none. -/
def into (origin : Origin) (name : String) (work : Origin → Entries → Option Entries)
    (entries : Entries) : Option Entries :=
  match entries.find? name with
  | none => do pure (entries.put name (.table origin (← work origin [])))
  | some (.table o inner) =>
    if origin = .dotted ∧ o = .header then none
    else do pure (entries.put name (.table o (← work o inner)))
  | some (.tables earlier last) => do
    if origin = .dotted then none
    else pure (entries.put name (.tables earlier (← work .header last)))
  | some (.closed _) => none

/-- Puts a value under the last of several keys, the tables on the way made by a key with points. No
key gets two values, and a table with a header is not added to from outside. -/
def defineIn (v : Value) : (path : List String) → (pointed : Bool) → Origin → Entries →
    Option Entries
  | [], _, _, _ => none
  | [name], pointed, origin, entries =>
    if (decide (origin = .dotted) != pointed) || (entries.find? name).isSome then none
    else some (entries.put name (.closed v))
  | name :: rest, _, _, entries => into .dotted name (defineIn v rest true) entries

/-- Puts a value under a key in the table that statements currently go to. -/
def define (path : List String) (v : Value) (entries : Entries) : Option Entries :=
  defineIn v path false .header entries

/-- Makes the table of a header. -/
def openTable : (path : List String) → Entries → Option Entries
  | [], _ => none
  | [name], entries =>
    match entries.find? name with
    | none => some (entries.put name (.table .header []))
    | some (.table .passed inner) => some (entries.put name (.table .header inner))
    | some _ => none
  | name :: rest, entries => into .passed name (fun _ => openTable rest) entries

/-- Makes the next table of a list of tables. -/
def openItem : (path : List String) → Entries → Option Entries
  | [], _ => none
  | [name], entries =>
    match entries.find? name with
    | none => some (entries.put name (.tables [] []))
    | some (.tables earlier last) => some (entries.put name (.tables (earlier ++ [last]) []))
    | some _ => none
  | name :: rest, entries => into .passed name (fun _ => openItem rest) entries

/-- Works in the table that the last header made; without a header, in the root. -/
def withinTable (work : Entries → Option Entries) : (path : List String) → Entries → Option Entries
  | [], entries => work entries
  | name :: rest, entries => into .passed name (fun _ => withinTable work rest) entries

mutual

/-- The value that a node has come to. -/
def Node.value : Node → Value
  | .closed v => v
  | .table _ entries => .table (entryValues entries)
  | .tables earlier last => .list (tableValues earlier ++ [.table (entryValues last)])

/-- The values under keys. -/
def entryValues : List (String × Node) → List (String × Value)
  | [] => []
  | (name, node) :: rest => (name, node.value) :: entryValues rest

/-- The values of tables in a list. -/
def tableValues : List (List (String × Node)) → List Value
  | [] => []
  | entries :: rest => .table (entryValues entries) :: tableValues rest

end

end JobQueue.Toml
