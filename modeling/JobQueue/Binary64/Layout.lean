import JobQueue.Binary64.Digits

/-!
# Ways to write a double

The digits of a double are settled by `Binary64.shortest`; what differs from one output to the next
is how they are laid out. A `Layout` says which exponents are written out in full, whether a whole
number keeps a point, how an exponent is spelled, and which way a tie goes. Three layouts are in
use:

* `Layout.json` in JSON text, hence in everything a fingerprint is taken of;
* `Layout.plain` in settings turned into text and in metric lines;
* `Layout.inspect` in the views made for inspection.
-/

namespace JobQueue.Binary64

/-- How the digits of a double are laid out. -/
structure Layout where
  /-- Which digits a magnitude half way between two decimals gets. -/
  tie : Tie
  /-- The exponents from the first to before the second are written out in full; `none` writes all
  of them so. -/
  positional : Option (Int × Int)
  /-- Whether a whole number written in full ends in `.0`. -/
  keepsPoint : Bool
  /-- What stands before an exponent that is not negative. -/
  plus : String
  /-- The text of an infinity, without its sign. -/
  infinity : String
  /-- The text of what is not a number. -/
  notANumber : String

/-- In JSON, `0.00001` up to below `1e+16` is written in full, a tie goes to the even digit, and
there is no text for what is not finite but `null`. -/
def Layout.json : Layout := ⟨.even, some (-5, 16), true, "+", "null", "null"⟩

/-- Plain text has no exponents, and no point behind a whole number; a tie goes up. -/
def Layout.plain : Layout := ⟨.up, none, false, "", "inf", "NaN"⟩

/-- For inspection, `0.0001` up to below `1e16` is written in full, and a tie goes up. -/
def Layout.inspect : Layout := ⟨.up, some (-4, 16), true, "", "inf", "NaN"⟩

/-- Digits with the point after the place `exponent`. -/
def Digits.positional (d : Digits) (keepsPoint : Bool) : List Char :=
  if d.exponent < 0 then
    '0' :: '.' :: (List.replicate (-d.exponent - 1).toNat '0' ++ d.digits)
  else
    let wholePlaces := d.exponent.toNat + 1
    let whole := d.digits.take wholePlaces
    let fraction := d.digits.drop wholePlaces
    let whole := whole ++ List.replicate (wholePlaces - whole.length) '0'
    if fraction.isEmpty then (if keepsPoint then whole ++ ['.', '0'] else whole)
    else whole ++ '.' :: fraction

/-- Digits with a point after the first and the exponent behind. -/
def Digits.scientific (d : Digits) (plus : String) : List Char :=
  let mantissa :=
    match d.digits with
    | [] => []
    | [c] => [c]
    | c :: rest => c :: '.' :: rest
  let exponent :=
    if d.exponent < 0 then '-' :: Nat.toDigits 10 (-d.exponent).toNat
    else plus.toList ++ Nat.toDigits 10 d.exponent.toNat
  mantissa ++ 'e' :: exponent

/-- The text of a magnitude. Zero counts as written in full. -/
def Layout.magnitude (l : Layout) (ordinal : Nat) : List Char :=
  let d := shortest l.tie ordinal
  match l.positional with
  | none => d.positional l.keepsPoint
  | some (low, high) =>
    if ordinal = 0 || (low ≤ d.exponent && d.exponent < high) then d.positional l.keepsPoint
    else d.scientific l.plus

/-- The text of a double. -/
def write (l : Layout) : Binary64 → String
  | .nan => l.notANumber
  | .infinite negative => if negative then "-" ++ l.infinity else l.infinity
  | .finite negative ordinal =>
    String.ofList (if negative then '-' :: l.magnitude ordinal.val else l.magnitude ordinal.val)

end JobQueue.Binary64
