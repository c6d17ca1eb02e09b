/-!
# Bounds of words

Counters are words of 32 and 64 bits, and numbers that may be negative are signed words. A number
that comes from a text or a document is taken only if a word of the wanted kind holds it.

* `Word.size` is how many values a word of so many bits has.
* `Word.holds` and `Word.holdsSigned` say which numbers a word holds.
-/

namespace JobQueue.Word

/-- How many values a word of so many bits has. -/
def size (bits : Nat) : Nat := Nat.pow 2 bits

/-- The largest number in a word of so many bits. -/
def largest (bits : Nat) : Nat := size bits - 1

/-- Whether a word of so many bits holds a number. -/
def holds (bits : Nat) (n : Int) : Bool := decide (0 ≤ n ∧ n < size bits)

/-- Whether a signed word of so many bits holds a number. One bit tells the sign. -/
def holdsSigned (bits : Nat) (n : Int) : Bool :=
  decide (-(size (bits - 1) : Int) ≤ n ∧ n < size (bits - 1))

end JobQueue.Word
