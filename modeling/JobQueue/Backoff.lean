import JobQueue.Binary64.Basic
import JobQueue.Word

/-!
# Retry delays

A job that failed with attempts left waits before it can be claimed again. The delay after the
`n`-th claim is `baseMs * factor ^ (n - 1)`, computed in doubles, at most `maxMs`, and cut to whole
milliseconds.

* `Backoff.delayFor` is that delay.
* `decideAfterFailure` says whether a failed job is retried, and after which delay, or given up.
-/

namespace JobQueue

/-- How the delay between attempts grows. -/
structure Backoff where
  /-- The delay after the first failed attempt, in milliseconds. -/
  baseMs : UInt64
  /-- What each further attempt multiplies the delay by. -/
  factor : Binary64
  /-- The largest delay, in milliseconds. -/
  maxMs : UInt64
  deriving DecidableEq

namespace Backoff

/-- One second, doubling, up to five minutes. -/
def standard : Backoff := ⟨1000, Binary64.ofNat 2, 300000⟩

/-- The largest exponent the power is taken with. -/
def exponentLimit : Nat := Word.largest 31

/-- The delay before the cap, as a double. -/
def scaled (policy : Backoff) (attempts : UInt32) : Binary64 :=
  (Binary64.ofNat policy.baseMs.toNat).mul
    (policy.factor.pow (Nat.min (attempts.toNat - 1) exponentLimit))

/-- The delay before a job claimed `attempts` times can be claimed again, in milliseconds. -/
def delayFor (policy : Backoff) (attempts : UInt32) : UInt64 :=
  if attempts = 0 then 0
  else
    let scaled := policy.scaled attempts
    let cap := Binary64.ofNat policy.maxMs.toNat
    let capped := if scaled.isFinite then scaled.min cap else cap
    UInt64.ofNat ((capped.max Binary64.zero).truncate (Word.largest 64))

end Backoff

/-! ## Retry or give up -/

/-- Whether the claims of a job have used up its attempts. -/
def shouldDeadLetter (attempts maxAttempts : UInt32) : Bool := maxAttempts ≤ attempts

/-- What happens to a job whose handler failed. -/
inductive FailureDecision where
  | retry (delayMs : UInt64)
  | deadLetter
  deriving DecidableEq

/-- A failed job is retried after the delay of its attempt as long as it has attempts left. -/
def decideAfterFailure (attempts maxAttempts : UInt32) (policy : Backoff) : FailureDecision :=
  if shouldDeadLetter attempts maxAttempts then .deadLetter else .retry (policy.delayFor attempts)

end JobQueue
