import JobQueue.Text.Hex
import JobQueue.Word

/-!
# Identifiers

Jobs and dead-letter records are named by identifiers of 128 bits, written as five groups of
hexadecimal digits. They are read in that form, as 32 digits in a row, in braces, or behind
`urn:uuid:`.

`Uuid.timeOrdered` makes identifiers that grow with the time and, at one time, with a counter, so
that comparing two of them settles ties by order of creation.
-/

namespace JobQueue

/-- An identifier of 128 bits. -/
structure Uuid where
  bits : BitVec 128
  deriving DecidableEq

namespace Uuid

/-- The identifier as a number; identifiers are compared by it. -/
def toNat (u : Uuid) : Nat := u.bits.toNat

/-- The identifier with this number. -/
def ofNat (n : Nat) : Uuid := ⟨BitVec.ofNat 128 n⟩

/-! ## Text -/

/-- The 32 digits of an identifier. -/
def digits (u : Uuid) : List Char := Text.hexDigits 32 u.toNat

/-- Digits in groups of eight, four, four, four and the rest. -/
def group (s : List Char) : List Char :=
  s.take 8 ++ '-' :: ((s.drop 8).take 4 ++ '-' :: ((s.drop 12).take 4 ++
    '-' :: ((s.drop 16).take 4 ++ '-' :: s.drop 20)))

/-- The text of an identifier. -/
def text (u : Uuid) : String := String.ofList (group u.digits)

/-- The identifier written by 32 digits. -/
def ofDigits? (s : List Char) : Option Uuid :=
  if s.length = 32 then (Text.hexNumber? s).map ofNat else none

/-- The identifier written by 32 digits in groups. -/
def ofGroups? (s : List Char) : Option Uuid :=
  let bare := s.filter (· ≠ '-')
  if s.length = 36 ∧ group bare = s then ofDigits? bare else none

/-- The identifier a text writes. -/
def parse? (s : String) : Option Uuid :=
  let s := s.toList
  match s with
  | '\x7b' :: rest =>
    match rest.reverse with
    | '\x7d' :: inner => ofGroups? inner.reverse
    | _ => none
  | 'u' :: 'r' :: 'n' :: ':' :: 'u' :: 'u' :: 'i' :: 'd' :: ':' :: rest => ofGroups? rest
  | _ => if s.length = 32 then ofDigits? s else ofGroups? s

/-! ## Making identifiers -/

/-- The version of an identifier: the digit in front of the third group. -/
def version (u : Uuid) : Nat := u.toNat / Nat.pow 2 76 % 16

/-- An identifier of version 7: 48 bits of milliseconds, then a counter. Later times give larger
identifiers, and at one time larger counters do. -/
def timeOrdered (milliseconds counter : Nat) : Uuid :=
  let milliseconds := milliseconds % Word.size 48
  let high := counter / Word.size 62 % Word.size 12
  let low := counter % Word.size 62
  ofNat (milliseconds * Nat.pow 2 80 + 7 * Nat.pow 2 76 + high * Nat.pow 2 64 + Nat.pow 2 63 + low)

/-- A small number as an identifier, for records made by hand. -/
def ofSmall (n : Nat) : Uuid := ofNat (7 * Nat.pow 2 76 + Nat.pow 2 63 + n % Word.size 48)

end Uuid

end JobQueue
