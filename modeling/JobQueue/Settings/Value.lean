import JobQueue.Binary64.Layout
import JobQueue.Binary64.Text
import JobQueue.Word

/-!
# Values of settings before they are typed

A settings file and the environment give values whose types need not be those of the settings. A
value is turned into what a setting wants if there is a sensible way: a whole number from a truth
value, a fraction or a word, a text from a number. A table or a list gives neither.

The conversions are `Value.toNat?`, `Value.toBinary64?` and `Value.toText?`.
-/

namespace JobQueue.Settings

/-- A value as a settings file or the environment gives it. -/
inductive Value where
  | absent
  | bool (b : Bool)
  | int (n : Int)
  | float (x : Binary64)
  | text (s : String)
  | list (items : List Value)
  | table (entries : List (String × Value))

namespace Value

instance : Inhabited Value := ⟨.absent⟩

/-- The truth value that a word stands for where a number is wanted, in any case. -/
def switch? (s : String) : Option Bool :=
  let word := String.ofList (s.toList.map Char.toLower)
  if word = "true" || word = "on" || word = "yes" then some true
  else if word = "false" || word = "off" || word = "no" then some false
  else none

/-- The natural number below `bound` that a text writes: digits, perhaps with a plus before
them. -/
def natOfText? (bound : Nat) (s : String) : Option Nat :=
  let digits := match s.toList with
    | '+' :: t => t
    | t => t
  if digits.isEmpty || !digits.all Text.isDigit then none
  else
    let n := Text.digitsToNat digits
    if n < bound then some n else none

/-- The largest number that a fraction is rounded to. -/
def largestNat : Nat := Word.largest 64

/-- A value as a natural number of at most 64 bits. A fraction goes to the nearest one, a half away
from zero, and beyond the range to its end. -/
def toNat? : Value → Option Nat
  | .int n => if 0 ≤ n ∧ n ≤ largestNat then some n.toNat else none
  | .bool b => some b.toNat
  | .float x => some (x.round largestNat)
  | .text s =>
    match switch? s with
    | some b => some b.toNat
    | none => natOfText? (largestNat + 1) s
  | .absent | .list _ | .table _ => none

/-- A value as a double. -/
def toBinary64? : Value → Option Binary64
  | .int n => some (Binary64.ofInt n)
  | .bool b => some (Binary64.ofNat b.toNat)
  | .float x => some x
  | .text s =>
    match switch? s with
    | some b => some (Binary64.ofNat b.toNat)
    | none => Binary64.ofText? s
  | .absent | .list _ | .table _ => none

/-- A value as a text. A number gives its plain text, which need not be the text that it was read
from. -/
def toText? : Value → Option String
  | .int n => some (toString n)
  | .bool b => some (if b then "true" else "false")
  | .float x => some (x.write .plain)
  | .text s => some s
  | .absent | .list _ | .table _ => none

/-- Whether no value was given. -/
def isAbsent : Value → Bool
  | .absent => true
  | _ => false

end Value

end JobQueue.Settings
