import JobQueue.Document.Json
import JobQueue.Postgres.Exchange

/-!
# Values of the database as documents

A value of the database is a JSON value when it is shown: identifiers and times as texts, numbers as
numbers, and what is JSON as itself. A JSON null would then look like an absent value, and is held
in an object with the one member `$json`. Times are shown and read as the database keeps them.

* `Datum.toJson` and `Statement.toJson` show values and statements.
* `Datum.ofJson?` reads the value of a column.
-/

namespace JobQueue.Postgres

/-- The column type of a name, in any case. -/
def ColumnType.ofName (name : String) : ColumnType :=
  match name.toUpper with
  | "UUID" => .uuid
  | "TEXT" => .text
  | "VARCHAR" | "BPCHAR" | "NAME" => .varchar
  | "JSON" => .json
  | "JSONB" => .jsonb
  | "INT4" | "INTEGER" => .int4
  | "INT8" | "BIGINT" => .int8
  | "TIMESTAMPTZ" => .timestamptz
  | name => .other name

/-- A value as a document. -/
def Datum.toJson : Datum → Json
  | .uuid id => Document.ofUuid id
  | .text s => .string s
  | .json .null => .object [("$json", .null)]
  | .json j => j
  | .int4 n => Json.ofInt n.toInt
  | .int8 n => Json.ofInt n.toInt
  | .timestamp t => Json.ofOption Document.ofInstant (instantOf? (microsecondsOf t))

/-- The value that a document gives for a column of a type; none where it suits no such column. -/
def Datum.ofJson? (type : ColumnType) (j : Json) : Option Datum :=
  match type with
  | .uuid => .uuid <$> Document.uuid? j
  | .json | .jsonb =>
    match j with
    | .null => none
    | .object [("$json", v)] => some (.json v)
    | _ => some (.json j)
  | .int4 => .int4 <$> Document.int32? j
  | .int8 => (fun n => .int8 (Int64.ofInt n)) <$> Document.whole? (Word.holdsSigned 64) j
  | .timestamptz => (fun t => (Datum.ofInstant t).kept) <$> Document.instant? j
  | .text | .varchar | .other _ => .text <$> Document.string? j

/-- A statement with its parameters as a document. -/
def Statement.toJson (s : Statement) : Json :=
  .object [("sql", .string s.sql),
    ("params", .array (s.parameters.map (Json.ofOption Datum.toJson)))]

end JobQueue.Postgres
