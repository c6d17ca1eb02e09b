/-!
# The shutdown signal

A signal is given once and stays given. Whoever waits for it **registers** first, and looks whether
it was given only then; giving it sets the flag first, and only then **notifies** all who are
registered. A signal that is given between the look and the wait is therefore not missed: its
notice reaches the one who registered.

Each of these steps is a function of its own, so that they can be taken in any order.
-/

namespace JobQueue

/-- Whether the signal was given, and who is registered and has not been notified, the last one
first. -/
structure Signal where
  isGiven : Bool
  registered : List Nat
  deriving DecidableEq

namespace Signal

/-- A signal not given yet. -/
def fresh : Signal := ⟨false, []⟩

/-- Registers one who is about to wait. -/
def register (s : Signal) (waiter : Nat) : Signal :=
  { s with registered := waiter :: s.registered.filter (· ≠ waiter) }

/-- Forgets one who waits no longer. -/
def withdraw (s : Signal) (waiter : Nat) : Signal :=
  { s with registered := s.registered.filter (· ≠ waiter) }

/-- Sets the flag. -/
def setFlag (s : Signal) : Signal := { s with isGiven := true }

/-- Notifies all who are registered, in the order in which they registered. -/
def notifyAll (s : Signal) : List Nat × Signal :=
  (s.registered.reverse, { s with registered := [] })

/-- Gives the signal: sets the flag, then notifies. -/
def give (s : Signal) : List Nat × Signal := s.setFlag.notifyAll

/-- A wait that is undisturbed but for the signal being given after some milliseconds, and that ends
after `limit` of them at the latest: whether the signal ended it, after how long, and the signal
then. -/
def await (s : Signal) (limit : Nat) (givenAfter : Option Nat) : Bool × Nat × Signal :=
  if s.isGiven then (true, 0, s)
  else
    match givenAfter with
    | some after => if after < limit then (true, after, s.give.2) else (false, limit, s)
    | none => (false, limit, s)

end Signal

end JobQueue
