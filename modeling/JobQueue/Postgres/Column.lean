import JobQueue.Error
import JobQueue.Json.Basic
import JobQueue.Time.Instant
import JobQueue.Uuid

/-!
# Columns of a PostgreSQL table

A row of an answer has cells by column name, each with the type of its column and a value, or no
value where the column is null. A value is read as what it is wanted for only if the type of its
column suits that; null suits everything that may be absent.

* `Row.optional` reads a cell that may be null, and `Row.required` one that may not.
* `Datum.kept` is what the database makes of a value: it keeps microseconds of a time, and no more.
-/

namespace JobQueue.Postgres

/-- The type of a column. -/
inductive ColumnType where
  | uuid
  | text
  /-- A text of limited length. -/
  | varchar
  | json
  | jsonb
  | int4
  | int8
  | timestamptz
  | other (name : String)
  deriving DecidableEq

/-- A value in a row or in the parameters of a statement. -/
inductive Datum where
  | uuid (id : Uuid)
  | text (s : String)
  | json (j : Json)
  | int4 (n : Int32)
  | int8 (n : Int64)
  | timestamp (t : Instant)
  deriving DecidableEq

/-! ## Times -/

/-- Nanoseconds from the epoch of instants to 2000-01-01. -/
def eraStart : Int := 946684800 * 1000000000

/-- The microseconds since 2000-01-01, cut toward it. -/
def microsecondsOf (t : Instant) : Int := (t.toNanoseconds - eraStart).tdiv 1000

/-- The instant so many microseconds after 2000-01-01. -/
def instantOf? (microseconds : Int) : Option Instant :=
  Instant.ofNanoseconds? (microseconds * 1000 + eraStart)

/-- A time as a value. -/
def Datum.ofInstant (t : Instant) : Datum := .timestamp t

/-- A value as the database keeps it. Microseconds that lead to no instant stay a mere number, which
cannot be read as a time. -/
def Datum.kept : Datum → Datum
  | .timestamp t =>
    match instantOf? (microsecondsOf t) with
    | some t => .timestamp t
    | none => .int8 (Int64.ofInt (microsecondsOf t))
  | datum => datum

/-! ## Cells -/

/-- A cell of a row. -/
structure Cell where
  type : ColumnType
  value : Option Datum
  deriving DecidableEq

/-- A row: cells by the name of their column. -/
abbrev Row := List (String × Cell)

/-- How a value is read: which types of columns suit, and what the value is then. -/
structure Reading (α : Type) where
  suits : ColumnType → Bool
  read : Datum → Option α

namespace Reading

/-- An identifier. -/
def uuid : Reading Uuid where
  suits type := type = .uuid
  read
    | .uuid id => some id
    | _ => none

/-- A text. -/
def text : Reading String where
  suits type := type = .text || type = .varchar
  read
    | .text s => some s
    | _ => none

/-- A JSON value. -/
def json : Reading Json where
  suits type := type = .json || type = .jsonb
  read
    | .json j => some j
    | _ => none

/-- A number of 32 bits. -/
def int4 : Reading Int32 where
  suits type := type = .int4
  read
    | .int4 n => some n
    | _ => none

/-- A number of 64 bits. -/
def int8 : Reading Int64 where
  suits type := type = .int8
  read
    | .int8 n => some n
    | _ => none

/-- A time. -/
def instant : Reading Instant where
  suits type := type = .timestamptz
  read
    | .timestamp t => some t
    | _ => none

end Reading

namespace Row

variable {α : Type}

/-- What is said of a column that cannot be read. -/
def unreadable (column : String) : QueueError := .database ("cannot read column " ++ column)

/-- The cell of a column. -/
def cell? (row : Row) (column : String) : Option Cell :=
  (row.find? fun c => c.1 = column).map (·.2)

/-- Reads a cell that may be null. -/
def optional (row : Row) (column : String) (r : Reading α) : Except QueueError (Option α) :=
  match row.cell? column with
  | none => .error (unreadable column)
  | some ⟨_, none⟩ => .ok none
  | some ⟨type, some datum⟩ =>
    if r.suits type then
      match r.read datum with
      | some a => .ok (some a)
      | none => .error (unreadable column)
    else .error (unreadable column)

/-- Reads a cell that must not be null. -/
def required (row : Row) (column : String) (r : Reading α) : Except QueueError α := do
  match ← row.optional column r with
  | some a => pure a
  | none => throw (unreadable column)

end Row

end JobQueue.Postgres
