import JobQueue.Binary64.Text
import JobQueue.Settings.Value
import JobQueue.Text.Hex
import JobQueue.Time.Calendar
import JobQueue.Toml.Quoted
import JobQueue.Word

/-!
# Numbers, truth values and times of a TOML text

These are written without quotes, in one run of characters. A whole number has at most 64 bits with
its sign; digits may be set apart by underscores. A date, a time or both are checked and give their
text in one settled form.
-/

namespace JobQueue.Toml

open Settings (Value)

/-! ## Numbers -/

/-- The digits of a run with single underscores between digits. -/
def digitsOf? (digit : Char → Bool) : List Char → Option (List Char)
  | [] => none
  | [c] => if digit c then some [c] else none
  | c :: '_' :: s => if digit c then (digitsOf? digit s).map (c :: ·) else none
  | c :: s => if digit c then (digitsOf? digit s).map (c :: ·) else none

/-- Whether a character is a digit of a base up to sixteen. -/
def isDigitOf (base : Nat) (c : Char) : Bool :=
  match Text.hexValue? c with
  | some n => n < base
  | none => false

/-- The number that digits write in a base up to sixteen. -/
def numberIn (base : Nat) (digits : List Char) : Nat :=
  digits.foldl (fun acc c => acc * base + (Text.hexValue? c).getD 0) 0

/-- A whole number, if it has at most 64 bits with its sign. -/
def intValue? (n : Int) : Option Value :=
  if Word.holdsSigned 64 n then some (.int n) else none

/-- Decimal digits without a zero in front of others. -/
def wholeDigits? (s : List Char) : Option (List Char) :=
  match digitsOf? Text.isDigit s with
  | some ('0' :: _ :: _) => none
  | digits => digits

/-- A decimal number without its sign. -/
def decimal? (negative : Bool) (s : List Char) : Option Value :=
  let isInner (c : Char) : Bool := Text.isDigit c || c = '_'
  let whole := s.takeWhile isInner
  match s.dropWhile isInner with
  | [] => do
    let n : Int := Text.digitsToNat (← wholeDigits? whole)
    intValue? (if negative then -n else n)
  | c :: rest => do
    let whole ← wholeDigits? whole
    let (fraction, rest) ←
      if c = '.' then do
        pure (← digitsOf? Text.isDigit (rest.takeWhile isInner), rest.dropWhile isInner)
      else pure ([], c :: rest)
    let exponent ← match rest with
      | [] => pure []
      | e :: rest => do
        let (negative, digits) := Binary64.readSign rest
        let digits ← digitsOf? Text.isDigit digits
        pure (e :: (if negative then '-' :: digits else digits))
    let exponent ← Binary64.exponentOf? exponent
    let x := Binary64.ofDecimal negative (Text.digitsToNat (whole ++ fraction))
      (exponent - fraction.length)
    if x.isFinite then pure (.float x) else none

/-- A number: signs stand only before decimal ones and the words for what is not finite. -/
def number? (s : List Char) : Option Value :=
  let based (base : Nat) (digits : List Char) : Option Value := do
    intValue? (numberIn base (← digitsOf? (isDigitOf base) digits))
  match s with
  | '0' :: 'x' :: digits => based 16 digits
  | '0' :: 'o' :: digits => based 8 digits
  | '0' :: 'b' :: digits => based 2 digits
  | s =>
    let (negative, s) := Binary64.readSign s
    match s with
    | ['i', 'n', 'f'] => some (.float (.infinite negative))
    | ['n', 'a', 'n'] => some (.float .nan)
    | s => decimal? negative s

/-! ## Dates and times -/

/-- A number of exactly `places` digits at the front of a text, if it is at most `top`. -/
def readPlaces (places top : Nat) (s : List Char) : Option (Nat × List Char) :=
  let digits := s.take places
  if digits.length = places ∧ digits.all Text.isDigit ∧ Text.digitsToNat digits ≤ top then
    some (Text.digitsToNat digits, s.drop places)
  else none

/-- A date at the front of a text. -/
def readDate (s : List Char) : Option (List Char × List Char) := do
  let (_, rest) ← readPlaces 4 9999 s
  let '-' :: rest := rest | none
  let (month, rest) ← readPlaces 2 12 rest
  let '-' :: rest := rest | none
  let (day, rest) ← readPlaces 2 31 rest
  let year := Text.digitsToNat (s.take 4)
  if Time.Date.valid ⟨year, month, day⟩ then pure (s.take 10, rest) else none

/-- The fraction of a second at the front of a text: nine digits count, and the zeros at the end
are left out. -/
def readFraction : List Char → Option (List Char × List Char)
  | '.' :: s =>
    match Text.spanDigits s with
    | ([], _) => none
    | (digits, rest) =>
      let kept := ((digits.take 9).reverse.dropWhile (· = '0')).reverse
      some ('.' :: (if kept.isEmpty then ['0'] else kept), rest)
  | s => some ([], s)

/-- A time of day at the front of a text; its seconds may be left out. -/
def readTime (s : List Char) : Option (List Char × List Char) := do
  let (_, rest) ← readPlaces 2 23 s
  let ':' :: rest := rest | none
  let (_, rest) ← readPlaces 2 59 rest
  match rest with
  | ':' :: rest =>
    let (_, rest) ← readPlaces 2 60 rest
    let (fraction, rest) ← readFraction rest
    pure (s.take 8 ++ fraction, rest)
  | rest => pure (s.take 5, rest)

/-- The offset that makes up a text, or nothing. -/
def offset? : List Char → Option (List Char)
  | [] => some []
  | ['Z'] | ['z'] => some ['Z']
  | sign :: s =>
    if sign = '+' || sign = '-' then do
      let (hours, rest) ← readPlaces 2 23 s
      let ':' :: rest := rest | none
      let (minutes, []) ← readPlaces 2 59 rest | none
      pure ((if hours = 0 ∧ minutes = 0 then '+' else sign) :: s)
    else none

/-- A date, a time, or both with an offset perhaps. -/
def moment? (s : List Char) : Option Value :=
  match readDate s with
  | some (date, []) => some (.text (String.ofList date))
  | some (date, separator :: rest) =>
    if separator = 'T' || separator = 't' || separator = ' ' then do
      let (time, rest) ← readTime rest
      let offset ← offset? rest
      pure (.text (String.ofList (date ++ 'T' :: time ++ offset)))
    else none
  | none =>
    match readTime s with
    | some (time, []) => some (.text (String.ofList time))
    | _ => none

/-! ## The run of a scalar -/

/-- The characters of an unquoted scalar. -/
def isScalarChar (c : Char) : Bool :=
  Text.isDigit c || ('a' ≤ c && c ≤ 'z') || ('A' ≤ c && c ≤ 'Z') ||
    c = '_' || c = '-' || c = '+' || c = '.' || c = ':'

/-- The run of characters of an unquoted scalar; a date and a time with one space between them are
one run. -/
def spanScalar (s : List Char) : List Char × List Char :=
  let run := s.takeWhile isScalarChar
  match s.dropWhile isScalarChar with
  | ' ' :: c :: rest =>
    if (readDate run).any (·.2.isEmpty) && Text.isDigit c then
      (run ++ ' ' :: (c :: rest).takeWhile isScalarChar, (c :: rest).dropWhile isScalarChar)
    else (run, ' ' :: c :: rest)
  | rest => (run, rest)

/-- An unquoted value at the front of a text. -/
def readScalar (s : List Char) : Option (Value × List Char) :=
  let (run, rest) := spanScalar s
  let value : Option Value :=
    if run = "true".toList then some (.bool true)
    else if run = "false".toList then some (.bool false)
    else
      match moment? run with
      | some v => some v
      | none => number? run
  value.map (·, rest)

end JobQueue.Toml
