import JobQueue.Settings.Value
import JobQueue.Text.Digits

/-!
# Laying settings over one another

Settings come in layers, each a list of values under paths; a later layer goes over an earlier one.

* `Path.parse?` reads a path: names with points between them, and places of a list in brackets.
* `Value.put` puts a value at a path. A table goes over a table key by key; any other value takes
  the place of what was there, and what is no table on the way becomes one.
* `Value.lay` puts all values of a layer.
-/

namespace JobQueue.Settings

/-- A step from a value into one inside it. -/
inductive Step where
  | key (name : String)
  /-- A place of a list, counted from its end when negative. -/
  | place (index : Int)
  deriving DecidableEq

/-- The way to a value: never empty, and its first step is a key. -/
structure Path where
  head : String
  rest : List Step
  deriving DecidableEq

namespace Path

/-- The characters of a name in a path. -/
def isNameChar (c : Char) : Bool :=
  Text.isDigit c || ('a' ≤ c && c ≤ 'z') || ('A' ≤ c && c ≤ 'Z') || c = '_' || c = '-'

/-- A place in brackets, the first bracket already taken. -/
def readPlace (s : List Char) : Option (Int × List Char) :=
  let (negative, s) := match s with
    | '-' :: t => (true, t)
    | t => (false, t)
  match Text.spanDigits s with
  | ([], _) => none
  | (digits, ']' :: rest) =>
    let n : Int := Text.digitsToNat digits
    some (if negative then -n else n, rest)
  | _ => none

/-- The steps behind the head of a path; every step takes a character. -/
def readSteps : (fuel : Nat) → List Char → Option (List Step)
  | _, [] => some []
  | 0, _ :: _ => none
  | fuel + 1, '.' :: s =>
    match s.takeWhile isNameChar with
    | [] => none
    | name => do
      pure (.key (String.ofList name) :: (← readSteps fuel (s.dropWhile isNameChar)))
  | fuel + 1, '[' :: s => do
    let (index, rest) ← readPlace s
    pure (.place index :: (← readSteps fuel rest))
  | _, _ => none

/-- The path a text writes. -/
def parse? (s : String) : Option Path :=
  let chars := s.toList
  match chars.takeWhile isNameChar with
  | [] => none
  | head => do
    pure ⟨String.ofList head, ← readSteps chars.length (chars.dropWhile isNameChar)⟩

/-- The path a text writes, or the text itself as a key. -/
def ofText (s : String) : Path := (parse? s).getD ⟨s, []⟩

end Path

namespace Value

/-- The entries of a table; any other value has none. -/
def entries : Value → List (String × Value)
  | .table entries => entries
  | _ => []

/-- The items of a list; any other value has none. -/
def items : Value → List Value
  | .list items => items
  | _ => []

/-- The value under a key. -/
def find (name : String) (entries : List (String × Value)) : Value :=
  ((entries.find? fun e => e.1 = name).map (·.2)).getD .absent

/-- Entries with a value put under a key, in the place of the one that was there. -/
def putEntry (name : String) (value : Value) : List (String × Value) → List (String × Value)
  | [] => [(name, value)]
  | e :: rest => if e.1 = name then (name, value) :: rest else e :: putEntry name value rest

/-- The items and the place among them that an index means, items put in front or at the end where
there are too few. -/
def stretch (index : Int) (items : List Value) : List Value × Nat :=
  if 0 ≤ index then
    (items ++ List.replicate (index.toNat + 1 - items.length) .absent, index.toNat)
  else
    let missing := (-index).toNat - items.length
    (List.replicate missing .absent ++ items, items.length + missing - (-index).toNat)

/-- Changes the value at the end of steps, making the tables and lists on the way. -/
def modifyAt (change : Value → Value) : List Step → Value → Value
  | [], v => change v
  | .key name :: rest, v =>
    .table (putEntry name (modifyAt change rest (find name v.entries)) v.entries)
  | .place index :: rest, v =>
    let (items, place) := stretch index v.items
    .list (items.set place (modifyAt change rest (items.getD place .absent)))

mutual

/-- A value gone over another: a table key by key, anything else in its place. -/
def layOver : (upper : Value) → (lower : Value) → Value
  | .table entries, under => .table (layEntries entries under.entries)
  | .absent, _ => .absent
  | .bool b, _ => .bool b
  | .int n, _ => .int n
  | .float x, _ => .float x
  | .text s, _ => .text s
  | .list items, _ => .list items

/-- The entries of one table gone over those of another. -/
def layEntries : (upper lower : List (String × Value)) → List (String × Value)
  | [], under => under
  | (name, v) :: rest, under =>
    layEntries rest (putEntry name (layOver v (find name under)) under)

end

/-- Puts a value at a path. -/
def put (path : Path) (value : Value) (root : Value) : Value :=
  modifyAt (layOver value) (.key path.head :: path.rest) root

/-- Puts the values of a layer, each under the path that its name writes. -/
def lay (layer : List (String × Value)) (root : Value) : Value :=
  layer.foldl (fun root e => put (.ofText e.1) e.2 root) root

end Value

end JobQueue.Settings
