import JobQueue.Document.Record
import JobQueue.Json.Basic
import JobQueue.Time.Text
import JobQueue.Uuid
import JobQueue.Word

/-!
# Documents in JSON

How the values that occur in the fields of documents are read from JSON and written to it. Counters
accept whole numbers in their range only; a double accepts whole numbers too. A record may be given
as an object or as an array of its fields, which must not be longer than the record.
-/

namespace JobQueue.Document

/-! ## Single values -/

/-- A text. -/
def string? : Json → Option String
  | .string s => some s
  | _ => none

/-- A truth value. -/
def bool? : Json → Option Bool
  | .bool b => some b
  | _ => none

/-- A whole number that a word holds. -/
def whole? (held : Int → Bool) : Json → Option Int
  | .number (.int n) => if held n then some n else none
  | _ => none

/-- A counter of 32 bits. -/
def uint32? (j : Json) : Option UInt32 :=
  (whole? (Word.holds 32) j).map fun n => UInt32.ofNat n.toNat

/-- A counter of 64 bits. -/
def uint64? (j : Json) : Option UInt64 :=
  (whole? (Word.holds 64) j).map fun n => UInt64.ofNat n.toNat

/-- A signed number of 32 bits. -/
def int32? (j : Json) : Option Int32 := (whole? (Word.holdsSigned 32) j).map Int32.ofInt

/-- A double; a whole number gives the nearest one. -/
def binary64? : Json → Option Binary64
  | .number (.float x) => some x
  | .number (.int n) => some (Binary64.ofInt n)
  | _ => none

/-- An identifier. -/
def uuid? (j : Json) : Option Uuid := (string? j).bind Uuid.parse?

/-- An instant. -/
def instant? (j : Json) : Option Instant := (string? j).bind Instant.parse?

/-- Any value. -/
def json? (j : Json) : Option Json := some j

/-! ## Records -/

/-- Whether a value is null. -/
def isNull : Json → Bool
  | .null => true
  | _ => false

/-- Reads a record from an object, or from an array that holds its fields and no more. -/
def record? {α : Type} (reader : RecordReader Json α) (j : Json) : Option α :=
  let source : Option (Source Json) :=
    match j with
    | .object members => some (.named members)
    | .array items => some (.listed items)
    | _ => none
  match source.bind reader with
  | some (a, rest) => if rest.isSpent then some a else none
  | none => none

/-- A field that may be absent or null. -/
def optional {α : Type} (name : String) (read : Json → Option α) : RecordReader Json (Option α) :=
  optionField name isNull read

/-! ## Writing -/

/-- An instant as text. -/
def ofInstant (t : Instant) : Json := .string t.text

/-- An identifier as text. -/
def ofUuid (u : Uuid) : Json := .string u.text

/-- A counter. -/
def ofUInt32 (n : UInt32) : Json := Json.ofNat n.toNat

/-- A counter. -/
def ofUInt64 (n : UInt64) : Json := Json.ofNat n.toNat

end JobQueue.Document
