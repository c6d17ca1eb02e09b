import JobQueue.Job.Document
import JobQueue.Handler.ErrorChain

/-!
# Handlers for rehearsals

In a rehearsal handlers do what a script says: what the first call does, what the second call does,
and so on. Every call is kept, so that it can be looked at afterwards.

* `Script.action` is what a call does.
* `HandlerCall` is what is kept of it.
-/

namespace JobQueue.Rehearsal

/-- How a call ends. -/
inductive Ending where
  | panic (message : Option String)
  | error (e : ErrorChain)
  | value (v : Json)

/-- What a call does: it sleeps, lets another worker steal the job perhaps, and ends. -/
structure Action where
  sleepMs : Nat
  /-- The worker that takes the expired locks back and claims, and how much later, in milliseconds,
  its clock runs. -/
  thief : Option (String × Int)
  ending : Ending

/-- What ends a scripted call, before the job is known. -/
inductive Scripted where
  | panic (message : Option String)
  | error (e : ErrorChain)
  /-- The document of the job. -/
  | job
  /-- A value, or else the payload of the job. -/
  | value (v : Option Json)

/-- A line of a script. -/
structure Line where
  sleepMs : Nat
  thief : Option (String × Int)
  scripted : Scripted

/-- A handler for rehearsals. -/
inductive Script where
  /-- Gives the payload back. -/
  | recording
  /-- Fails so many times, then gives the number of the call. -/
  | failing (times : Nat)
  /-- Fails every time. -/
  | alwaysFailing (message : String)
  /-- Sleeps, then says how long. -/
  | slow (delayMs : Nat)
  /-- Follows its lines, the last one over and over. -/
  | lines (all : List Line)

/-- How a line ends for a job. -/
def Scripted.ending (job : Job) : Scripted → Ending
  | .panic message => .panic message
  | .error e => .error e
  | .job => .value job.toJson
  | .value v => .value (v.getD job.payload)

namespace Script

/-- A call that ends without further ado. -/
def atOnce (ending : Ending) : Action := ⟨0, none, ending⟩

/-- What the call with this number does, the first being number one. -/
def action (script : Script) (call : Nat) (job : Job) : Action :=
  match script with
  | .recording => atOnce (.value (.object [("echo", job.payload)]))
  | .failing times =>
    if call ≤ times then
      let text := "scripted failure " ++ toString call ++ " of " ++ toString times
      atOnce (.error (.message text))
    else atOnce (.value (.object [("call", Json.ofNat call)]))
  | .alwaysFailing message => atOnce (.error (.message message))
  | .slow delayMs => ⟨delayMs, none, .value (.object [("slept_ms", Json.ofNat delayMs)])⟩
  | .lines all =>
    match (all.drop (call - 1)).head?.or all.getLast? with
    | some line => ⟨line.sleepMs, line.thief, Scripted.ending job line.scripted⟩
    | none => atOnce (.value job.payload)

end Script

/-- A call of a handler. -/
structure HandlerCall where
  job : Job
  /-- When it began, in milliseconds since the rehearsal began. -/
  atMs : Nat

/-- A handler of a rehearsal, with the calls that it had, the last one first. -/
structure Actor where
  script : Script
  calls : List HandlerCall

end JobQueue.Rehearsal
