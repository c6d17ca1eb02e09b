/-!
# Reading records

A stored document is a record whose fields are given by name, or one after the other in the order
in which the record declares them. A `Source` is what is left to read, and a `RecordReader` takes
the fields from it in the order of declaration.

* `field` takes a field that must be there.
* `optionField` takes one that may be absent or null. Among fields given by position it must be
  there, since what follows would move otherwise.
* `fieldOr` takes one that has a value of its own when absent, also at the end of a list.

What fields there are besides is not looked at when they are given by name. Whether a list may be
longer than the record is for its reader to say: `Source.isSpent` tells.
-/

namespace JobQueue.Document

variable {v α : Type}

/-- The fields of a record: by name, or by position. -/
inductive Source (v : Type) where
  | named (members : List (String × v))
  | listed (items : List v)

/-- Whether no field is left that was given by position. -/
def Source.isSpent : Source v → Bool
  | .named _ => true
  | .listed items => items.isEmpty

/-- Takes fields from a source; `none` when the source does not hold such a record. -/
abbrev RecordReader (v : Type) := StateT (Source v) Option

/-- Takes the next field as it is given, `none` if it is absent. -/
def takeField (name : String) : RecordReader v (Option v) := fun source =>
  match source with
  | .named members => some ((members.find? fun m => m.1 = name).map (·.2), source)
  | .listed [] => some (none, source)
  | .listed (x :: items) => some (some x, .listed items)

/-- A field that must be there. -/
def field (name : String) (read : v → Option α) : RecordReader v α := do
  match ← takeField name with
  | some x => (read x : Option α)
  | none => (none : Option α)

/-- A field that may be absent or null. -/
def optionField (name : String) (isNull : v → Bool) (read : v → Option α) :
    RecordReader v (Option α) := do
  match ← takeField name, ← get with
  | some x, _ => if isNull x then pure none else (some <$> (read x : Option α) : Option (Option α))
  | none, .named _ => pure none
  | none, .listed _ => (none : Option (Option α))

/-- A field that has a value of its own when absent. -/
def fieldOr (name : String) (standard : α) (read : v → Option α) : RecordReader v α := do
  match ← takeField name with
  | some x => (read x : Option α)
  | none => pure standard

/-- An optional value: null gives `none`. -/
def nullable (isNull : v → Bool) (read : v → Option α) (x : v) : Option (Option α) :=
  if isNull x then some none else (read x).map some

end JobQueue.Document
