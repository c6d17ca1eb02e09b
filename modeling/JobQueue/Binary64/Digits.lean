import JobQueue.Binary64.Basic

/-!
# Decimal digits of a double

A positive magnitude is written by the fewest significant digits that read back as it, and of the
numbers with that many digits by the nearest one. Of two that are as near as each other, a `Tie`
says which one it is. A decimal that is read gives the nearest double.

* `Binary64.Digits` is a run of significant digits with the place of the first one.
* `Binary64.shortest` finds the digits of a magnitude: it tries `1, 2, … 17` digits, and for each
  number of digits the two decimals on either side of the value.
* `Binary64.ofDecimal` rounds a decimal.
-/

namespace JobQueue.Binary64

/-- What becomes of a magnitude half way between two decimals. -/
inductive Tie where
  /-- The decimal that ends in an even digit is taken. -/
  | even
  /-- The larger decimal is taken. -/
  | up
  deriving DecidableEq

/-- Whether the smaller one of two decimals is taken, by its last digits. -/
def Tie.takesLower (tie : Tie) (below : Nat) : Bool :=
  match tie with
  | .even => below % 2 = 0
  | .up => false

/-- Significant digits: the value is `digits`, read as a number with its point after the first
digit, times `10 ^ exponent`. -/
structure Digits where
  digits : List Char
  exponent : Int
  deriving DecidableEq

/-! ## Reading -/

/-- The double nearest to `mantissa * 10 ^ exponent`. An exponent out of all proportion to the
digits of the mantissa settles the answer without the power. -/
def ofDecimal (negative : Bool) (mantissa : Nat) (exponent : Int) : Binary64 :=
  if mantissa = 0 then ofOrdinal negative 0
  else
    let length := (Nat.toDigits 10 mantissa).length
    if exponent + length > 400 then .infinite negative
    else if exponent + length < -400 then ofOrdinal negative 0
    else if 0 ≤ exponent then ofRatio negative (mantissa * Nat.pow 10 exponent.toNat * unitsOfOne) 1
    else ofRatio negative (mantissa * unitsOfOne) (Nat.pow 10 (-exponent).toNat)

/-! ## The shortest digits -/

/-- The largest `e` with `10 ^ e ≤ num / den`, for a positive ratio. -/
def decimalExponent (num den : Nat) : Int :=
  if den ≤ num then ((Nat.toDigits 10 (num / den)).length : Int) - 1
  else -((Nat.toDigits 10 ((den - 1) / num)).length : Int)

/-- The values that read back as a magnitude, in half units: from half way to the magnitude below
to half way to the one above, both ends included when the ordinal is even. -/
def readsBack (ordinal : Nat) (num den : Nat) : Bool :=
  let low := (unitsOf (ordinal - 1) + unitsOf ordinal) * den
  let high := (unitsOf ordinal + unitsOf (ordinal + 1)) * den
  if ordinal % 2 = 0 then low ≤ num && num ≤ high else low < num && num < high

/-- The best decimal for a magnitude among the multiples of `10 ^ place` next to it, as the factor
of `10 ^ place`, if one of them reads back. -/
def nearestOnGrid? (tie : Tie) (ordinal : Nat) (place : Int) : Option Nat :=
  -- A decimal `c * 10 ^ place` is `c * step / scale` half units.
  let step := 2 * unitsOfOne * Nat.pow 10 place.toNat
  let scale := Nat.pow 10 (-place).toNat
  let value := 2 * unitsOf ordinal * scale
  let below := value / step
  let above := below + 1
  let lowerFits := readsBack ordinal (below * step) scale
  let upperFits := readsBack ordinal (above * step) scale
  let beyondLower := value - below * step
  let shortOfUpper := above * step - value
  let isLower := beyondLower < shortOfUpper || (beyondLower = shortOfUpper && tie.takesLower below)
  if lowerFits && (!upperFits || isLower) then some below
  else if upperFits then some above
  else none

/-- The first number of digits from `count` on that reads back, and the factor found there. -/
def shortestFrom (tie : Tie) (ordinal : Nat) (exponent : Int) :
    (rounds : Nat) → (count : Nat) → Nat × Int
  | 0, count => (0, exponent - count)
  | rounds + 1, count =>
    let place := exponent - count + 1
    match nearestOnGrid? tie ordinal place with
    | some factor => (factor, place)
    | none => shortestFrom tie ordinal exponent rounds (count + 1)

/-- The fewest digits that read back as the magnitude with this ordinal. -/
def shortest (tie : Tie) (ordinal : Nat) : Digits :=
  if ordinal = 0 then ⟨['0'], 0⟩
  else
    let start := decimalExponent (unitsOf ordinal) unitsOfOne
    let (factor, place) := shortestFrom tie ordinal start 17 1
    let digits := Nat.toDigits 10 factor
    let kept := (digits.reverse.dropWhile (· = '0')).reverse
    ⟨kept, place + digits.length - 1⟩

end JobQueue.Binary64
