import JobQueue.Toml.Quoted
import JobQueue.Toml.Scalar
import JobQueue.Toml.Table

/-!
# TOML documents

`Toml.parse` reads a settings file: statements, one a line, that give a key a value or name the
table that the statements behind them go to. What is not such a file, or gives a key twice, is
refused.

The readers of nested values are bounded by fuel; each takes a character of the text, so that the
length of the text is fuel enough.
-/

namespace JobQueue.Toml

open Settings (Value)

/-! ## Between the values -/

/-- The rest of a line without its comment. -/
def skipComment : List Char → List Char
  | '#' :: s => s.dropWhile isPrintable
  | s => s

/-- What follows the end of the line, if only blanks and a comment stand before it. -/
def endLine? (s : List Char) : Option (List Char) :=
  match skipComment (skipBlanks s) with
  | [] => some []
  | s => afterNewline? s

/-- The text without blanks, comments and ends of line in front. -/
def skipLines : (fuel : Nat) → List Char → List Char
  | 0, s => s
  | fuel + 1, s =>
    match afterNewline? (skipComment (skipBlanks s)) with
    | some rest => skipLines fuel rest
    | none => skipComment (skipBlanks s)

/-! ## Keys -/

/-- One part of a key: a bare name, or a string on one line. -/
def readName : List Char → Option (String × List Char)
  | '"' :: s => readBasic (s.length + 1) [] s
  | '\'' :: s => readLiteral s
  | s =>
    match s.takeWhile Settings.Path.isNameChar with
    | [] => none
    | name => some (String.ofList name, s.dropWhile Settings.Path.isNameChar)

/-- A key: names with points between them. -/
def readKey : (fuel : Nat) → List Char → Option (List String × List Char)
  | 0, _ => none
  | fuel + 1, s => do
    let (name, s) ← readName (skipBlanks s)
    match skipBlanks s with
    | '.' :: rest =>
      let (names, rest) ← readKey fuel rest
      pure (name :: names, rest)
    | rest => pure ([name], rest)

/-! ## Values -/

mutual

/-- A value at the front of a text. -/
def readValue : (fuel : Nat) → List Char → Option (Value × List Char)
  | 0, _ => none
  | fuel + 1, s =>
    match s with
    | '[' :: rest => readItems fuel [] rest
    | '\x7b' :: rest => readInline fuel [] rest
    | s =>
      match readString? s with
      | some (text, rest) => some (.text text, rest)
      | none => readScalar s

/-- The items of a list up to its closing bracket, gathered in reverse. A comma may follow the last
one. -/
def readItems : (fuel : Nat) → List Value → List Char → Option (Value × List Char)
  | 0, _, _ => none
  | fuel + 1, gathered, s =>
    match skipLines s.length s with
    | ']' :: rest => some (.list gathered.reverse, rest)
    | s =>
      match readValue fuel s with
      | none => none
      | some (v, s) =>
        match skipLines s.length s with
        | ',' :: rest => readItems fuel (v :: gathered) rest
        | ']' :: rest => some (.list (v :: gathered).reverse, rest)
        | _ => none

/-- The entries of a table in braces up to the closing one. -/
def readInline : (fuel : Nat) → Entries → List Char → Option (Value × List Char)
  | 0, _, _ => none
  | fuel + 1, entries, s =>
    match skipLines s.length s with
    | '\x7d' :: rest => some (.table (entryValues entries), rest)
    | s =>
      match readKey s.length s with
      | some (path, '=' :: s) =>
        match readValue fuel (skipBlanks s) with
        | none => none
        | some (v, s) =>
          match define path v entries with
          | none => none
          | some entries =>
            match skipLines s.length s with
            | ',' :: rest => readInline fuel entries rest
            | '\x7d' :: rest => some (.table (entryValues entries), rest)
            | _ => none
      | _ => none

end

/-! ## Statements -/

/-- What a line says. -/
inductive Statement where
  | assign (path : List String) (v : Value)
  | table (path : List String)
  | item (path : List String)

/-- A statement at the front of a text, and what follows its line. -/
def readStatement (s : List Char) : Option (Statement × List Char) :=
  match s with
  | '[' :: '[' :: s => do
    let (path, ']' :: ']' :: rest) ← readKey s.length s | none
    pure (.item path, ← endLine? rest)
  | '[' :: s => do
    let (path, ']' :: rest) ← readKey s.length s | none
    pure (.table path, ← endLine? rest)
  | s => do
    let (path, '=' :: rest) ← readKey s.length s | none
    let (v, rest) ← readValue (2 * rest.length + 2) (skipBlanks rest)
    pure (.assign path v, ← endLine? rest)

/-- The statements of a text. -/
def readStatements : (fuel : Nat) → List Char → Option (List Statement)
  | 0, _ => none
  | fuel + 1, s =>
    match skipLines s.length s with
    | [] => some []
    | s => do
      let (statement, rest) ← readStatement s
      pure (statement :: (← readStatements fuel rest))

/-- Follows the statements from the table that they currently go to. -/
def follow : (current : List String) → List Statement → Entries → Option Entries
  | _, [], root => some root
  | current, .assign path v :: rest, root => do
    follow current rest (← withinTable (define path v) current root)
  | _, .table path :: rest, root => do follow path rest (← openTable path root)
  | _, .item path :: rest, root => do follow path rest (← openItem path root)

/-- The table that a text writes. A byte order mark in front is passed over. -/
def parse (text : String) : Option (List (String × Value)) := do
  let chars := match text.toList with
    | '\ufeff' :: s => s
    | s => s
  let statements ← readStatements (chars.length + 1) chars
  pure (entryValues (← follow [] statements []))

end JobQueue.Toml
