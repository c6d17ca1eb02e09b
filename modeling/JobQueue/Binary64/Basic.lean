/-!
# Double-precision numbers

The numbers of a backoff factor, of a JSON fraction and of a duration in seconds are binary
floating point numbers of 64 bits. This module gives them as plain data, so that a theorem about a
delay can follow the arithmetic down to natural numbers.

Every finite number is a sign and a whole number of **units**, where one unit is the least positive
number, `2 ^ (-1074)`. The magnitudes are numbered in increasing order, and the number of a
magnitude is its `Ordinal`: comparing magnitudes is comparing ordinals, the next larger magnitude
has the next ordinal, and two finite numbers are equal exactly when sign and ordinal are.

* `Binary64.unitsOf` sends an ordinal to its units.
* `Binary64.ordinalOfRatio` sends a ratio of units to the ordinal nearest to it, a tie going to the
  even one.
* `Binary64.ofRatio` is the number so rounded, infinite once the ordinal leaves the finite range.

Sums, products and quotients are the exact ones, rounded once.
-/

namespace JobQueue

/-- How many magnitudes share a leading bit, from a power of two to before the next one. -/
def Binary64.binade : Nat := Nat.pow 2 52

/-- The first ordinal that no finite magnitude has. -/
def Binary64.ordinalBound : Nat := 2047 * binade

/-- A double-precision number: a finite one by sign and ordinal, an infinity, or no number. -/
inductive Binary64 where
  | nan
  | infinite (negative : Bool)
  | finite (negative : Bool) (ordinal : Fin Binary64.ordinalBound)
  deriving DecidableEq

namespace Binary64

/-! ## Ordinals and units -/

/-- The units in one: `1` is `2 ^ 1074` units. -/
def unitsOfOne : Nat := Nat.pow 2 1074

/-- The units of the magnitude with this ordinal. Below the second binade consecutive magnitudes
differ by one unit; each further binade doubles that distance. -/
def unitsOf (ordinal : Nat) : Nat :=
  let shift := ordinal / binade - 1
  (ordinal - shift * binade) * Nat.pow 2 shift

/-- The whole number nearest to `num / den`, a tie going to the even one. -/
def roundHalfEven (num den : Nat) : Nat :=
  let floor := num / den
  let twice := 2 * (num % den)
  if twice < den then floor
  else if den < twice then floor + 1
  else floor + floor % 2

/-- The ordinal nearest to `num / den` units. The magnitudes near a value whose leading bit has
place `k` lie `2 ^ (k - 52)` units apart, so rounding to a magnitude is rounding to a multiple. -/
def ordinalOfRatio (num den : Nat) : Nat :=
  let shift := (num / den).log2 - 52
  shift * binade + roundHalfEven num (den * Nat.pow 2 shift)

/-- The number with this sign and ordinal, infinite past the last finite ordinal. -/
def ofOrdinal (negative : Bool) (ordinal : Nat) : Binary64 :=
  if h : ordinal < ordinalBound then .finite negative ⟨ordinal, h⟩ else .infinite negative

/-- The number nearest to `num / den` units with this sign. -/
def ofRatio (negative : Bool) (num den : Nat) : Binary64 :=
  ofOrdinal negative (ordinalOfRatio num den)

/-- Positive zero. -/
def zero : Binary64 := ofOrdinal false 0

/-- The number nearest to a natural number. -/
def ofNat (n : Nat) : Binary64 := ofRatio false (n * unitsOfOne) 1

/-- The number nearest to an integer. -/
def ofInt (n : Int) : Binary64 := ofRatio (n < 0) (n.natAbs * unitsOfOne) 1

/-- One. -/
def one : Binary64 := ofNat 1

/-! ## Classes and order -/

/-- Whether the number is neither an infinity nor not a number. -/
def isFinite : Binary64 → Bool
  | .finite _ _ => true
  | _ => false

/-- Whether the number is not a number. -/
def isNaN : Binary64 → Bool
  | .nan => true
  | _ => false

/-- Whether the sign is negative; not a number has none. -/
def isNegative : Binary64 → Bool
  | .nan => false
  | .infinite negative => negative
  | .finite negative _ => negative

/-- The place of a number on the line of ordinals: zero of either sign at `0`, the infinities just
past the finite numbers. -/
def rank : Binary64 → Option Int
  | .nan => none
  | .infinite negative => some (if negative then -ordinalBound else ordinalBound)
  | .finite negative ordinal => some (if negative then -ordinal.val else ordinal.val)

/-- Whether `x ≤ y`; nothing is below or above what is not a number. -/
def le (x y : Binary64) : Bool :=
  match x.rank, y.rank with
  | some a, some b => a ≤ b
  | _, _ => false

/-- The smaller of two numbers; beside what is not a number, the other one. -/
def min (x y : Binary64) : Binary64 :=
  if x.isNaN then y else if y.isNaN then x else if x.le y then x else y

/-- The larger of two numbers; beside what is not a number, the other one. -/
def max (x y : Binary64) : Binary64 :=
  if x.isNaN then y else if y.isNaN then x else if y.le x then x else y

/-! ## Arithmetic -/

/-- The signed units of a finite number. -/
def signedUnits (negative : Bool) (ordinal : Nat) : Int :=
  if negative then -(unitsOf ordinal : Int) else unitsOf ordinal

/-- The product. Zero times infinity is not a number. -/
def mul : Binary64 → Binary64 → Binary64
  | .nan, _ => .nan
  | _, .nan => .nan
  | .infinite s, .infinite t => .infinite (s ^^ t)
  | .infinite s, .finite t o => if o.val = 0 then .nan else .infinite (s ^^ t)
  | .finite s o, .infinite t => if o.val = 0 then .nan else .infinite (s ^^ t)
  | .finite s o, .finite t p => ofRatio (s ^^ t) (unitsOf o.val * unitsOf p.val) unitsOfOne

/-- The sum. Opposite infinities have none, and a sum of opposite numbers is positive zero. -/
def add : Binary64 → Binary64 → Binary64
  | .nan, _ => .nan
  | _, .nan => .nan
  | .infinite s, .infinite t => if s = t then .infinite s else .nan
  | .infinite s, .finite _ _ => .infinite s
  | .finite _ _, .infinite t => .infinite t
  | .finite s o, .finite t p =>
    let sum := signedUnits s o.val + signedUnits t p.val
    if sum = 0 then ofOrdinal (s && t) 0 else ofRatio (sum < 0) sum.natAbs 1

/-- The number nearest to a quotient of natural numbers. -/
def ofQuotient (num den : Nat) : Binary64 := ofRatio false (num * unitsOfOne) den

/-- Squaring and multiplying: with `bits` rounds left, `r * x ^ n` for an exponent of at most that
many bits. The last round multiplies and does not square. -/
def powLoop : (bits : Nat) → (r x : Binary64) → (n : Nat) → Binary64
  | 0, r, _, _ => r
  | bits + 1, r, x, n =>
    let r := if n % 2 = 1 then r.mul x else r
    if n / 2 = 0 then r else powLoop bits r (x.mul x) (n / 2)

/-- The power with an exponent below `2 ^ 32`, by squaring and multiplying from the lowest bit. -/
def pow (x : Binary64) (n : Nat) : Binary64 := powLoop 32 one x n

/-! ## Whole numbers -/

/-- The number cut toward zero, as a natural number of at most `top`: negative numbers and what is
not a number give `0`, and what is too large gives `top`. -/
def truncate (top : Nat) : Binary64 → Nat
  | .nan => 0
  | .infinite negative => if negative then 0 else top
  | .finite negative ordinal =>
    if negative then 0 else Nat.min (unitsOf ordinal.val / unitsOfOne) top

/-- The nearest whole number, a half going away from zero, as a natural number of at most `top`:
negative numbers and what is not a number give `0`. -/
def round (top : Nat) : Binary64 → Nat
  | .nan => 0
  | .infinite negative => if negative then 0 else top
  | .finite negative ordinal =>
    if negative then 0
    else Nat.min ((2 * unitsOf ordinal.val + unitsOfOne) / (2 * unitsOfOne)) top

end Binary64

end JobQueue
