import JobQueue.Json.Basic
import JobQueue.Binary64.Layout
import JobQueue.Text.Hex

/-!
# JSON text

A value is written without white space. Of the characters in a string only the quote, the backslash
and those below the space are escaped. The **canonical** text of a value is the text of its sorted
form; it is what fingerprints are taken of.

Each writer takes the text that follows and puts its own in front of it, so that what is written
for a list is the writers of its items, one after the other.
-/

namespace JobQueue.Json

/-- A character inside a string. -/
def escapeChar (c : Char) : List Char :=
  if c = '"' then ['\\', '"']
  else if c = '\\' then ['\\', '\\']
  else if c = '\x08' then ['\\', 'b']
  else if c = '\x0c' then ['\\', 'f']
  else if c = '\n' then ['\\', 'n']
  else if c = '\r' then ['\\', 'r']
  else if c = '\t' then ['\\', 't']
  else if c.toNat < 0x20 then '\\' :: 'u' :: Text.hexDigits 4 c.toNat
  else [c]

/-- A string between quotes, in front of `rest`. -/
def writeString (s : String) (rest : List Char) : List Char :=
  '"' :: (s.toList.flatMap escapeChar ++ '"' :: rest)

/-- The text of a number. -/
def numberText : Number → List Char
  | .int n => if n < 0 then '-' :: Nat.toDigits 10 n.natAbs else Nat.toDigits 10 n.natAbs
  | .float x => (x.write .json).toList

mutual

/-- The text of a value, in front of `rest`. -/
def write : Json → List Char → List Char
  | .null, rest => 'n' :: 'u' :: 'l' :: 'l' :: rest
  | .bool true, rest => 't' :: 'r' :: 'u' :: 'e' :: rest
  | .bool false, rest => 'f' :: 'a' :: 'l' :: 's' :: 'e' :: rest
  | .number n, rest => numberText n ++ rest
  | .string s, rest => writeString s rest
  | .array items, rest => '[' :: writeItems items (']' :: rest)
  | .object members, rest => '\x7b' :: writeMembers members ('\x7d' :: rest)

/-- Items with commas between them, in front of `rest`. -/
def writeItems : List Json → List Char → List Char
  | [], rest => rest
  | [x], rest => x.write rest
  | x :: y :: ys, rest => x.write (',' :: writeItems (y :: ys) rest)

/-- Members with commas between them, in front of `rest`. -/
def writeMembers : List (String × Json) → List Char → List Char
  | [], rest => rest
  | [(k, x)], rest => writeString k (':' :: x.write rest)
  | (k, x) :: y :: ys, rest =>
    writeString k (':' :: x.write (',' :: writeMembers (y :: ys) rest))

end

/-- The text of a value. -/
def text (j : Json) : String := String.ofList (j.write [])

/-- The canonical text of a value: that of its sorted form. -/
def canonical (j : Json) : String := j.sorted.text

end JobQueue.Json
