import JobQueue.Time.Instant
import JobQueue.Text.Digits
import JobQueue.Text.Blank

/-!
# Instants as text

An instant is written in the form of RFC 3339 in UTC, `2026-01-01T00:00:00.250Z`, with as few of
0, 3, 6 or 9 digits of fraction as are exact. A leap second is written with second `60`. Years
outside four digits carry a sign.

The reader is more liberal than the writer: numbers need not be padded, blanks may stand around the
separators of date and time, any offset below a day is accepted and so is the word `UTC`. Of a
longer fraction nine digits count.
-/

namespace JobQueue.Instant

open Time (Date)
open Text (padded isDigit isBlank)

/-! ## Writing -/

/-- The digits of a year: four of them, or a sign and at least four. -/
def yearText (year : Int) : List Char :=
  if 0 ≤ year ∧ year ≤ 9999 then padded 4 year.toNat
  else (if year < 0 then '-' else '+') :: padded 4 year.natAbs

/-- The fraction of a second, with the fewest groups of three digits. -/
def fractionText (nano : Nat) : List Char :=
  if nano = 0 then []
  else if nano % 1000000 = 0 then '.' :: padded 3 (nano / 1000000)
  else if nano % 1000 = 0 then '.' :: padded 6 (nano / 1000)
  else '.' :: padded 9 nano

/-- The characters of an instant. -/
def chars (t : Instant) : List Char :=
  let date := Date.ofDays (t.second / 86400)
  let ofDay := (t.second % 86400).toNat
  let isLeap := 1000000000 ≤ t.nano
  let second := ofDay % 60 + (if isLeap then 1 else 0)
  let nano := if isLeap then t.nano - 1000000000 else t.nano
  yearText date.year ++ '-' :: (padded 2 date.month ++ '-' :: (padded 2 date.day ++
    'T' :: (padded 2 (ofDay / 3600) ++ ':' :: (padded 2 (ofDay / 60 % 60) ++
      ':' :: (padded 2 second ++ (fractionText nano ++ ['Z']))))))

/-- The text of an instant. -/
def text (t : Instant) : String := String.ofList t.chars

/-! ## Reading -/

/-- A text without the blanks in front. -/
def skipBlanks (s : List Char) : List Char := s.dropWhile isBlank

/-- A number of one up to `most` digits. -/
def readNumber (most : Nat) (s : List Char) : Option (Nat × List Char) :=
  let digits := (s.take most).takeWhile isDigit
  if digits.isEmpty then none else some (Text.digitsToNat digits, s.drop digits.length)

/-- A number of one or two digits, blanks allowed in front. -/
def readPair (s : List Char) : Option (Nat × List Char) := readNumber 2 (skipBlanks s)

/-- A year: a sign and any number of digits, or up to four digits. -/
def readYear (s : List Char) : Option (Int × List Char) :=
  match skipBlanks s with
  | '-' :: s => (readNumber s.length s).map fun (n, s) => (-(n : Int), s)
  | '+' :: s => (readNumber s.length s).map fun (n, s) => ((n : Int), s)
  | s => (readNumber 4 s).map fun (n, s) => ((n : Int), s)

/-- A separator, blanks allowed in front. -/
def readSeparator (c : Char) (s : List Char) : Option (List Char) :=
  match skipBlanks s with
  | d :: s => if d = c then some s else none
  | [] => none

/-- The fraction of a second in nanoseconds, if there is one. -/
def readFraction : List Char → Option (Nat × List Char)
  | '.' :: s => do
    let digits := (s.take 9).takeWhile isDigit
    if digits.isEmpty then none
    else
      let nano := Text.digitsToNat digits * Nat.pow 10 (9 - digits.length)
      pure (nano, (s.drop digits.length).dropWhile isDigit)
  | s => some (0, s)

/-- Two digits, no fewer. -/
def readTwoDigits : List Char → Option (Nat × List Char)
  | a :: b :: s =>
    if isDigit a && isDigit b then some (Text.digitsToNat [a, b], s) else none
  | _ => none

/-- The seconds that local time is ahead of UTC. -/
def readOffset (s : List Char) : Option (Int × List Char) :=
  match s with
  | u :: t :: c :: rest =>
    if u.toUpper = 'U' && t.toUpper = 'T' && c.toUpper = 'C' then some (0, rest) else readSigned s
  | _ => readSigned s
where
  /-- `Z`, or a sign, hours and minutes; colons and blanks may stand between these two. -/
  readSigned : List Char → Option (Int × List Char)
    | [] => none
    | c :: s => do
      if c = 'Z' || c = 'z' then pure (0, s)
      else if c = '+' || c = '-' || c = '−' then
        let (hours, s) ← readTwoDigits s
        let (minutes, s) ← readTwoDigits (s.dropWhile fun c => c = ':' || isBlank c)
        let seconds : Int := hours * 3600 + minutes * 60
        if 60 ≤ minutes || 86400 ≤ seconds then none
        else pure (if c = '+' then seconds else -seconds, s)
      else none

/-- The instant with these readings of a clock that is `offset` seconds ahead of UTC. A second
`60` is the leap second after second `59`. -/
def ofClock? (date : Date) (hour minute second nano : Nat) (offset : Int) : Option Instant :=
  if date.valid && hour < 24 && minute < 60 && second ≤ 60 && -262143 ≤ date.year &&
      date.year ≤ 262142 then
    let (second, nano) := if second = 60 then (59, nano + 1000000000) else (second, nano)
    ofParts? (date.toDays * 86400 + hour * 3600 + minute * 60 + second - offset) nano
  else none

/-- The instant a text writes. -/
def parse? (s : String) : Option Instant := do
  let (year, s) ← readYear s.toList
  let s ← readSeparator '-' s
  let (month, s) ← readPair s
  let s ← readSeparator '-' s
  let (day, s) ← readPair s
  let s ← match s with
    | c :: s => if c = 'T' || c = 't' || c = ' ' then some s else none
    | [] => none
  let (hour, s) ← readPair s
  let s ← readSeparator ':' s
  let (minute, s) ← readPair s
  let s ← readSeparator ':' s
  let (second, s) ← readPair s
  let (nano, s) ← readFraction s
  let (offset, s) ← readOffset (skipBlanks s)
  if (skipBlanks s).isEmpty then ofClock? ⟨year, month, day⟩ hour minute second nano offset
  else none

end JobQueue.Instant
