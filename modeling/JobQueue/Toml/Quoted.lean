import JobQueue.Text.Hex

/-!
# Strings of a TOML text

TOML has four kinds of strings: between quotes with escapes, or between apostrophes without, each on
one line or, between three of them, over several. The readers here take what follows the opening
mark and give the string with the rest behind the closing one.
-/

namespace JobQueue.Toml

/-- Whether a character may stand in a comment or a string: every one but the control characters
other than the tab. -/
def isPrintable (c : Char) : Bool := c = '\t' || (0x20 ≤ c.toNat && c.toNat ≠ 0x7F)

/-- The blanks inside a line. -/
def isBlank (c : Char) : Bool := c = ' ' || c = '\t'

/-- The text without the blanks in front. -/
def skipBlanks (s : List Char) : List Char := s.dropWhile isBlank

/-- The text behind an end of line, if it starts with one. -/
def afterNewline? : List Char → Option (List Char)
  | '\n' :: s => some s
  | '\r' :: '\n' :: s => some s
  | _ => none

/-- The character with this number; surrogates are none. -/
def charOfNumber? (n : Nat) : Option Char :=
  if n < 0xD800 ∨ (0xDFFF < n ∧ n < 0x110000) then some (Char.ofNat n) else none

/-- The character written by `places` hexadecimal digits. -/
def readNumbered (places : Nat) (s : List Char) : Option (Char × List Char) := do
  let digits := s.take places
  if digits.length < places then none
  else pure (← charOfNumber? (← Text.hexNumber? digits), s.drop places)

/-- The character of an escape, the backslash already taken. -/
def readEscape : List Char → Option (Char × List Char)
  | 'b' :: s => some ('\x08', s)
  | 't' :: s => some ('\t', s)
  | 'n' :: s => some ('\n', s)
  | 'f' :: s => some ('\x0c', s)
  | 'r' :: s => some ('\r', s)
  | 'e' :: s => some ('\x1b', s)
  | '"' :: s => some ('"', s)
  | '\\' :: s => some ('\\', s)
  | 'x' :: s => readNumbered 2 s
  | 'u' :: s => readNumbered 4 s
  | 'U' :: s => readNumbered 8 s
  | _ => none

/-- The blanks and ends of line behind a backslash that ends a line, skipped. -/
def skipFolded : (fuel : Nat) → List Char → List Char
  | 0, s => s
  | fuel + 1, s =>
    match afterNewline? (skipBlanks s) with
    | some rest => skipFolded fuel rest
    | none => skipBlanks s

/-- A string with escapes on one line. -/
def readBasic : (fuel : Nat) → (gathered : List Char) → List Char → Option (String × List Char)
  | 0, _, _ => none
  | _, _, [] => none
  | fuel + 1, gathered, c :: s =>
    if c = '"' then some (String.ofList gathered.reverse, s)
    else if c = '\\' then
      match readEscape s with
      | some (c, rest) => readBasic fuel (c :: gathered) rest
      | none => none
    else if isPrintable c then readBasic fuel (c :: gathered) s
    else none

/-- A string without escapes on one line. -/
def readLiteral (s : List Char) : Option (String × List Char) :=
  let body := s.takeWhile fun c => c ≠ '\'' && isPrintable c
  match s.drop body.length with
  | '\'' :: rest => some (String.ofList body, rest)
  | _ => none

/-- The closing mark of a string over several lines, and up to two marks in front of it that belong
to the string. -/
def closing? (mark : Char) (s : List Char) : Option (List Char × List Char) :=
  let run := (s.takeWhile (· = mark)).length
  if run < 3 then none
  else
    let kept := Nat.min (run - 3) 2
    some (List.replicate kept mark, s.drop (kept + 3))

/-- A string with escapes over several lines. A backslash at the end of a line joins what follows
its blanks. -/
def readLongBasic : (fuel : Nat) → (gathered : List Char) → List Char → Option (String × List Char)
  | 0, _, _ => none
  | _, _, [] => none
  | fuel + 1, gathered, c :: s =>
    if c = '"' then
      match closing? '"' (c :: s) with
      | some (kept, rest) => some (String.ofList (gathered.reverse ++ kept), rest)
      | none => readLongBasic fuel (c :: gathered) s
    else if c = '\\' then
      match afterNewline? (skipBlanks s) with
      | some rest => readLongBasic fuel gathered (skipFolded rest.length rest)
      | none =>
        match readEscape s with
        | some (c, rest) => readLongBasic fuel (c :: gathered) rest
        | none => none
    else if c = '\n' || isPrintable c then readLongBasic fuel (c :: gathered) s
    else
      match afterNewline? (c :: s) with
      | some rest => readLongBasic fuel ('\n' :: '\r' :: gathered) rest
      | none => none

/-- A string without escapes over several lines. -/
def readLongLiteral : (fuel : Nat) → (gathered : List Char) → List Char →
    Option (String × List Char)
  | 0, _, _ => none
  | _, _, [] => none
  | fuel + 1, gathered, c :: s =>
    if c = '\'' then
      match closing? '\'' (c :: s) with
      | some (kept, rest) => some (String.ofList (gathered.reverse ++ kept), rest)
      | none => readLongLiteral fuel (c :: gathered) s
    else if c = '\n' || isPrintable c then readLongLiteral fuel (c :: gathered) s
    else
      match afterNewline? (c :: s) with
      | some rest => readLongLiteral fuel ('\n' :: '\r' :: gathered) rest
      | none => none

/-- The text of a long string without the end of line right behind its opening mark. -/
def dropFirstNewline (s : List Char) : List Char := (afterNewline? s).getD s

/-- A string of any kind at the front of a text; `none` also where there is none. -/
def readString? : List Char → Option (String × List Char)
  | '"' :: '"' :: '"' :: s => readLongBasic (s.length + 1) [] (dropFirstNewline s)
  | '"' :: s => readBasic (s.length + 1) [] s
  | '\'' :: '\'' :: '\'' :: s => readLongLiteral (s.length + 1) [] (dropFirstNewline s)
  | '\'' :: s => readLiteral s
  | _ => none

end JobQueue.Toml
