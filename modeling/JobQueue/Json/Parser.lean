import JobQueue.Binary64.Digits
import JobQueue.Json.Basic
import JobQueue.Text.Digits
import JobQueue.Text.Hex
import JobQueue.Word

/-!
# Reading JSON text

`Json.parse` reads a text that holds one value and nothing but white space around it. A literal
without fraction and exponent that fits 64 bits, signed or unsigned, is a whole number; every other
number is the nearest double, and one that exceeds all doubles is refused. Of members with one name
the last counts.
-/

namespace JobQueue.Json

/-- The characters without the white space in front. -/
def skipSpace (s : List Char) : List Char :=
  s.dropWhile fun c => c = ' ' || c = '\t' || c = '\n' || c = '\r'

/-! ## Numbers -/

/-- The digits behind a point, if there is one; a point without digits is refused. -/
def readFraction : List Char → Option (List Char × List Char)
  | '.' :: s =>
    let (digits, rest) := Text.spanDigits s
    if digits.isEmpty then none else some (digits, rest)
  | s => some ([], s)

/-- The exponent, if there is one, with the rest; an `e` without digits is refused. -/
def readExponent (s : List Char) : Option (Option Int × List Char) :=
  match s with
  | c :: s' =>
    if c = 'e' || c = 'E' then
      let (negative, s') := match s' with
        | '-' :: t => (true, t)
        | '+' :: t => (false, t)
        | t => (false, t)
      let (digits, rest) := Text.spanDigits s'
      if digits.isEmpty then none
      else
        let n : Int := Text.digitsToNat digits
        some (some (if negative then -n else n), rest)
    else some (none, s)
  | [] => some (none, s)

/-- The number with these parts: whole digits, fraction digits and exponent. -/
def numberOf? (negative : Bool) (whole fraction : List Char) (exponent : Option Int) :
    Option Number :=
  let n := Text.digitsToNat whole
  let value : Int := if negative then -n else n
  if fraction.isEmpty && exponent.isNone && !(negative && n = 0) &&
      (Word.holdsSigned 64 value || Word.holds 64 value) then
    some (.int value)
  else
    let x := Binary64.ofDecimal negative (Text.digitsToNat (whole ++ fraction))
      (exponent.getD 0 - fraction.length)
    if x.isFinite then some (.float x) else none

/-- A number at the front of a text. The whole part has no zero in front of further digits. -/
def readNumber (s : List Char) : Option (Json × List Char) := do
  let (negative, s) := match s with
    | '-' :: t => (true, t)
    | t => (false, t)
  let (whole, s) := Text.spanDigits s
  match whole with
  | [] => none
  | '0' :: _ :: _ => none
  | _ =>
    let (fraction, s) ← readFraction s
    let (exponent, s) ← readExponent s
    pure (.number (← numberOf? negative whole fraction exponent), s)

/-! ## Strings -/

/-- Four hexadecimal digits at the front of a text. -/
def readUnit : List Char → Option (Nat × List Char)
  | a :: b :: c :: d :: rest => (Text.hexNumber? [a, b, c, d]).map (·, rest)
  | _ => none

/-- The character of an escape with a number. Numbers of surrogates stand for a character only in
pairs. -/
def readEscapedUnit (s : List Char) : Option (Char × List Char) := do
  let (high, s) ← readUnit s
  if 0xD800 ≤ high ∧ high < 0xDC00 then
    match s with
    | '\\' :: 'u' :: t =>
      let (low, t) ← readUnit t
      if 0xDC00 ≤ low ∧ low < 0xE000 then
        pure (Char.ofNat (0x10000 + (high - 0xD800) * 0x400 + (low - 0xDC00)), t)
      else none
    | _ => none
  else if 0xDC00 ≤ high ∧ high < 0xE000 then none
  else pure (Char.ofNat high, s)

/-- The character of an escape without a number. -/
def simpleEscape? : Char → Option Char
  | '"' => some '"'
  | '\\' => some '\\'
  | '/' => some '/'
  | 'b' => some '\x08'
  | 'f' => some '\x0c'
  | 'n' => some '\n'
  | 'r' => some '\r'
  | 't' => some '\t'
  | _ => none

/-- The characters of a string up to its closing quote, gathered in reverse, and the rest. The fuel
bounds the number of characters. -/
def readChars : (fuel : Nat) → (gathered : List Char) → List Char → Option (String × List Char)
  | 0, _, _ => none
  | _ + 1, _, [] => none
  | fuel + 1, gathered, c :: s =>
    if c = '"' then some (String.ofList gathered.reverse, s)
    else if c = '\\' then
      match s with
      | 'u' :: t =>
        match readEscapedUnit t with
        | some (c, t) => readChars fuel (c :: gathered) t
        | none => none
      | e :: t =>
        match simpleEscape? e with
        | some c => readChars fuel (c :: gathered) t
        | none => none
      | [] => none
    else if c.toNat < 0x20 then none
    else readChars fuel (c :: gathered) s

/-- A string at the front of a text. -/
def readString (fuel : Nat) : List Char → Option (String × List Char)
  | '"' :: s => readChars fuel [] s
  | _ => none

/-! ## Values -/

mutual

/-- A value at the front of a text, white space in front of it allowed. The fuel bounds the number
of characters, values and separators on the way. -/
def readValue : (fuel : Nat) → List Char → Option (Json × List Char)
  | 0, _ => none
  | fuel + 1, s =>
    match skipSpace s with
    | 'n' :: 'u' :: 'l' :: 'l' :: rest => some (.null, rest)
    | 't' :: 'r' :: 'u' :: 'e' :: rest => some (.bool true, rest)
    | 'f' :: 'a' :: 'l' :: 's' :: 'e' :: rest => some (.bool false, rest)
    | '"' :: rest => (readChars fuel [] rest).map fun (s, rest) => (.string s, rest)
    | '[' :: rest =>
      match skipSpace rest with
      | ']' :: rest => some (.array [], rest)
      | rest => (readItems fuel [] rest).map fun (items, rest) => (.array items, rest)
    | '\x7b' :: rest =>
      match skipSpace rest with
      | '\x7d' :: rest => some (.object [], rest)
      | rest => (readMembers fuel [] rest).map fun (members, rest) => (ofMembers members, rest)
    | s => readNumber s

/-- The items of an array up to its closing bracket, gathered in reverse. -/
def readItems : (fuel : Nat) → List Json → List Char → Option (List Json × List Char)
  | 0, _, _ => none
  | fuel + 1, gathered, s =>
    match readValue fuel s with
    | none => none
    | some (x, s) =>
      match skipSpace s with
      | ',' :: s => readItems fuel (x :: gathered) s
      | ']' :: s => some ((x :: gathered).reverse, s)
      | _ => none

/-- The members of an object up to its closing brace, gathered in reverse. -/
def readMembers : (fuel : Nat) → List (String × Json) → List Char →
    Option (List (String × Json) × List Char)
  | 0, _, _ => none
  | fuel + 1, gathered, s =>
    match readString fuel (skipSpace s) with
    | none => none
    | some (name, s) =>
      match skipSpace s with
      | ':' :: s =>
        match readValue fuel s with
        | none => none
        | some (x, s) =>
          match skipSpace s with
          | ',' :: s => readMembers fuel ((name, x) :: gathered) s
          | '\x7d' :: s => some (((name, x) :: gathered).reverse, s)
          | _ => none
      | _ => none

end

/-- The value a text holds. Every step of the reader takes a character, so the length of the text
is fuel enough. -/
def parse (s : String) : Option Json :=
  let chars := s.toList
  match readValue (2 * chars.length + 2) chars with
  | some (j, rest) => if (skipSpace rest).isEmpty then some j else none
  | none => none

end JobQueue.Json
