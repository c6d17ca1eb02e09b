/-!
# Hexadecimal digits

Digests and identifiers are written in lower-case hexadecimal and read in either case.
-/

namespace JobQueue.Text

/-- The lower-case digit of a number below sixteen. -/
def hexDigit (n : Nat) : Char :=
  if n < 10 then Char.ofNat (48 + n) else Char.ofNat (87 + n)

/-- The value of a hexadecimal digit. -/
def hexValue? (c : Char) : Option Nat :=
  let n := c.toNat
  if 48 ≤ n ∧ n ≤ 57 then some (n - 48)
  else if 97 ≤ n ∧ n ≤ 102 then some (n - 87)
  else if 65 ≤ n ∧ n ≤ 70 then some (n - 55)
  else none

/-- The lowest `places` hexadecimal digits of a number, the highest first. -/
def hexDigits (places n : Nat) : List Char :=
  (List.range places).reverse.map fun i => hexDigit (n / Nat.pow 16 i % 16)

/-- The number written by hexadecimal digits; `none` when one of the characters is no digit. -/
def hexNumber? (s : List Char) : Option Nat :=
  s.foldl (fun acc c => do pure ((← acc) * 16 + (← hexValue? c))) (some 0)

/-- The two digits of each byte. -/
def hexOfBytes (bytes : List UInt8) : List Char :=
  bytes.flatMap fun b => hexDigits 2 b.toNat

end JobQueue.Text
