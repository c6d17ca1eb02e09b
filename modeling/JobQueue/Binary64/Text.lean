import JobQueue.Binary64.Digits
import JobQueue.Text.Digits

/-!
# Doubles in free text

A setting may come as text. A text is a number when it is an optional sign and digits with at most
one point among or beside them, perhaps with an exponent, or one of the words for an infinity or for
what is not a number, in any case.
-/

namespace JobQueue.Binary64

/-- A sign at the front of a text, and the rest. -/
def readSign : List Char → Bool × List Char
  | '-' :: s => (true, s)
  | '+' :: s => (false, s)
  | s => (false, s)

/-- The exponent that makes up a text: nothing, or an `e` with a sign and digits. -/
def exponentOf? : List Char → Option Int
  | [] => some 0
  | c :: s =>
    let (negative, digits) := readSign s
    if (c = 'e' || c = 'E') && !digits.isEmpty && digits.all Text.isDigit then
      let n : Int := Text.digitsToNat digits
      some (if negative then -n else n)
    else none

/-- The number a text without sign writes in digits. -/
def magnitudeOfText? (negative : Bool) (s : List Char) : Option Binary64 := do
  let (whole, s) := Text.spanDigits s
  let (fraction, s) := match s with
    | '.' :: t => Text.spanDigits t
    | t => ([], t)
  if whole.isEmpty && fraction.isEmpty then none
  else
    let exponent ← exponentOf? s
    pure (ofDecimal negative (Text.digitsToNat (whole ++ fraction)) (exponent - fraction.length))

/-- The number a text writes. -/
def ofText? (text : String) : Option Binary64 :=
  let (negative, s) := readSign text.toList
  let word := String.ofList (s.map Char.toLower)
  if word = "inf" || word = "infinity" then some (.infinite negative)
  else if word = "nan" then some .nan
  else magnitudeOfText? negative s

end JobQueue.Binary64
