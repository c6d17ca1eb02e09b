import JobQueue.Job.Failure

/-!
# Errors of handlers

A handler fails with an error that may have been given context on the way up, or have been made the
source of another error. A failure that the handler built itself is kept as it is, also behind
context put on it; behind an error that only names it as its source it is not seen. Every other
error is recorded by its chain of messages, the outermost first.
-/

namespace JobQueue

/-- An error with what it came from. -/
inductive ErrorChain where
  /-- An error that is only a message. -/
  | message (text : String)
  /-- A failure of the handler's own making. -/
  | failure (f : Failure)
  /-- A message put on an error. -/
  | withContext (text : String) (inner : ErrorChain)
  /-- A failure put on an error. -/
  | withFailure (f : Failure) (inner : ErrorChain)
  /-- Another error that names this one as its source. -/
  | wrapped (text : String) (source : ErrorChain)

namespace ErrorChain

/-- The outermost failure of the handler's own making. -/
def failure? : ErrorChain → Option Failure
  | .message _ => none
  | .failure f => some f
  | .withContext _ inner => inner.failure?
  | .withFailure f _ => some f
  | .wrapped _ _ => none

/-- The messages of the chain, the outermost first. -/
def messages : ErrorChain → List String
  | .message text => [text]
  | .failure f => [f.display]
  | .withContext text inner => text :: inner.messages
  | .withFailure f inner => f.display :: inner.messages
  | .wrapped text source => text :: source.messages

/-- The chain in one line. -/
def display (e : ErrorChain) : String := String.intercalate ": " e.messages

/-- The failure that an error of a handler is recorded as. -/
def toFailure (e : ErrorChain) : Failure := e.failure?.getD (Failure.handlerError e.display)

end ErrorChain

/-- How a handler ended without a value: with an error, or by a panic with or without a message. -/
inductive HandlerFailure where
  | error (e : ErrorChain)
  | panic (message : Option String)

/-- What is recorded of a panic that carries no message. -/
def panicMessage (message : Option String) : String := message.getD "handler panicked"

end JobQueue
