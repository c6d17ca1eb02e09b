/-!
# Log events and spans

What the queue does is told by events: a level, a message, and named values. An event stands inside
the spans that are entered when it is told, which name the piece of work that it belongs to.
-/

namespace JobQueue

/-- How much an event matters. -/
inductive Level where
  | trace
  | debug
  | info
  | warn
  | error
  deriving DecidableEq

namespace Level

/-- The name of a level. -/
def text : Level → String
  | .trace => "TRACE"
  | .debug => "DEBUG"
  | .info => "INFO"
  | .warn => "WARN"
  | .error => "ERROR"

/-- The place of a level, the least important first. -/
def rank : Level → Nat
  | .trace => 0
  | .debug => 1
  | .info => 2
  | .warn => 3
  | .error => 4

end Level

/-- A value that is told with an event. -/
inductive FieldValue where
  | number (n : Nat)
  | text (s : String)
  deriving DecidableEq

/-- Values by name. -/
abbrev Fields := List (String × FieldValue)

/-- Something that happened. -/
structure Event where
  level : Level
  message : String
  fields : Fields
  deriving DecidableEq

/-- A piece of work that events belong to. -/
structure Span where
  name : String
  fields : Fields
  deriving DecidableEq

end JobQueue
