import JobQueue.Rehearsal.World

/-!
# Transcripts of rehearsals

Identifiers differ from one run to the next, and so does the worker of a pool that happens to take a
job. A transcript therefore gives names: the first job is `job-1`, the first record `dl-1`, and so
on, and all workers of a pool of several go by one name.

* `Names.update` gives names to what is new.
* `Names.json` writes a value with the names in the place of identifiers.
* `World.stateLines` tells where the jobs are.
-/

namespace JobQueue.Rehearsal

/-- The jobs and the records that have names, in the order of their numbers. A name stays when what
it was given to is gone. -/
structure Names where
  jobs : List Uuid
  records : List Uuid

namespace Names

/-- Nothing has a name. -/
def fresh : Names := ⟨[], []⟩

/-- Whether the first of two records is named first: the one made earlier, of two made at one time
the one whose job has the lower number. -/
def namedBefore (jobs : List Uuid) (a b : DeadLetter) : Bool :=
  a.movedAt < b.movedAt ||
    (a.movedAt = b.movedAt && decide (jobs.idxOf a.jobId ≤ jobs.idxOf b.jobId))

/-- Gives names to the jobs and records of a store that have none. -/
def update (n : Names) (s : Store) : Names :=
  let jobs := s.jobs.map Job.id
  let fresh := s.deadLetters.filter fun r => !n.records.contains r.id
  ⟨jobs, n.records ++ (fresh.mergeSort (namedBefore jobs)).map DeadLetter.id⟩

/-- Identifiers with numbered names. -/
def numbered (mark : String) (ids : List Uuid) : List (Uuid × String) :=
  ids.mapIdx fun i id => (id, mark ++ toString (i + 1))

/-- The texts of all identifiers that have names, with the names. -/
def table (n : Names) : List (List Char × List Char) :=
  (numbered "job-" n.jobs ++ numbered "dl-" n.records).map fun e => (e.1.text.toList, e.2.toList)

/-- A text with names in the place of identifiers. The fuel bounds its length. -/
def replaceIn (table : List (List Char × List Char)) : (fuel : Nat) → List Char → List Char
  | 0, s => s
  | _ + 1, [] => []
  | fuel + 1, c :: s =>
    if s[7]? = some '-' then
      match table.find? fun e => e.1.isPrefixOf (c :: s) with
      | some (id, name) => name ++ replaceIn table fuel (s.drop (id.length - 1))
      | none => c :: replaceIn table fuel s
    else c :: replaceIn table fuel s

/-- The identifier behind a name with this mark, if the text is such a name. A number that was not
given stands for a small identifier. -/
def ofName? (mark : String) (ids : List Uuid) (text : String) : Option Uuid :=
  let digits := text.toList.drop mark.length
  if mark.toList.isPrefixOf text.toList && !digits.isEmpty && digits.all Text.isDigit then
    let number := Text.digitsToNat digits
    let named := if number = 0 then none else ids[number - 1]?
    some (named.getD (.ofSmall number))
  else none

/-- The identifier that a text names, or writes. -/
def id? (n : Names) (text : String) : Option Uuid :=
  ((ofName? "job-" n.jobs text).or (ofName? "dl-" n.records text)).or (Uuid.parse? text)

end Names

/-- What stands for the name of a worker of a pool of several. -/
def poolName : String := "POOL"

/-- A worker name, or any other text, with the name of a worker of a pool of several hidden. -/
def maskWorker (pool : Pool Role) (text : String) : String :=
  let mark := pool.settings.workerPrefix ++ "-" ++ pool.instanceId ++ "-w"
  if 1 < pool.settings.concurrency && mark.isPrefixOf text then poolName else text

/-- How texts are written in a transcript. -/
structure Pen where
  pool : Pool Role
  names : List (List Char × List Char)

namespace Pen

/-- A text with names in it. -/
def text (p : Pen) (s : String) : String :=
  let chars := s.toList
  maskWorker p.pool (String.ofList (Names.replaceIn p.names chars.length chars))

mutual

/-- A value with names in all its texts. -/
def json (p : Pen) : Json → Json
  | .null => .null
  | .bool b => .bool b
  | .number n => .number n
  | .string s => .string (p.text s)
  | .array items => .array (jsonItems p items)
  | .object members => .object (jsonMembers p members)

/-- Items with names in all their texts. -/
def jsonItems (p : Pen) : List Json → List Json
  | [] => []
  | x :: xs => json p x :: jsonItems p xs

/-- Members with names in all their texts. -/
def jsonMembers (p : Pen) : List (String × Json) → List (String × Json)
  | [] => []
  | (k, x) :: xs => (k, json p x) :: jsonMembers p xs

end

end Pen

/-! ## What a transcript holds -/

/-- The value of a field of an event. -/
def ofField : FieldValue → Json
  | .number n => Json.ofNat n
  | .text s => .string s

/-- The fields of an event or a span. -/
def ofFields (fields : Fields) : List (String × Json) := fields.map fun f => (f.1, ofField f.2)

/-- An event with its spans. -/
def Told.toJson (t : Told) : Json :=
  .object [
    ("level", .string t.event.level.text),
    ("message", .string t.event.message),
    ("fields", .object (ofFields t.event.fields)),
    ("spans", .array (t.spans.map fun s =>
      .object (("span", .string s.name) :: ofFields s.fields)))]

/-- The outcome of an iteration. -/
def ofOutcome (o : Outcome) : Json :=
  let details : List (String × Json) := match o with
    | .retrying _ attempts delayMs =>
      [("attempts", Document.ofUInt32 attempts), ("delay_ms", Document.ofUInt64 delayMs)]
    | .failed _ attempts record =>
      [("attempts", Document.ofUInt32 attempts),
        ("dead_letter", Json.ofOption Document.ofUuid record)]
    | .succeeded _ | .lockLost _ => []
  .object (("outcome", .string o.label) :: ("job", Document.ofUuid o.job) :: details)

/-- A call of a handler, as its script keeps it. -/
def HandlerCall.toJson (script : Script) (c : HandlerCall) : Json :=
  let extra : String × Json := match script with
    | .lines _ => ("at", Json.ofNat c.atMs)
    | _ => ("job_type", .string c.job.jobType)
  .object [("job", Document.ofUuid c.job.id), ("attempts", Document.ofUInt32 c.job.attempts),
    ("payload", c.job.payload), extra]

namespace World

/-- The views of everything for inspection, with that of a worker. -/
def views (w : World) (worker : String) : List (String × String) :=
  [("client", w.pool.client.inspect), ("dead_letters", w.pool.deadLetters.inspect),
    ("runtime", w.pool.inspect w.state), ("worker", (w.pool.worker worker).inspect),
    ("store", w.store.inspect)]

/-- Up to how many jobs are told of one by one. -/
def mostLines : Nat := 16

/-- Where a job is: its state, its attempts, and who holds its lock. -/
def stateLine (w : World) (name : String) (job : Job) : String :=
  name ++ " " ++ job.status.text ++ " " ++ toString job.attempts.toNat ++ "/" ++
    toString job.maxAttempts.toNat ++ " " ++ (job.lockOwner.map (maskWorker w.pool)).getD "-"

/-- Where all jobs are, if they are few, and how many records there are. -/
def stateLines (w : World) : List String :=
  let jobs :=
    if w.store.jobs.length ≤ mostLines then
      w.store.jobs.mapIdx fun i job => w.stateLine ("job-" ++ toString (i + 1)) job
    else []
  jobs ++ ["dead " ++ toString w.store.deadLetters.length]

/-- The events that were told since the last look, of a level or above, and the world in which they
were looked at. -/
def takeTold (w : World) (least : Level) : List Told × World :=
  (w.told.reverse.filter fun t => least.rank ≤ t.event.level.rank, { w with told := [] })

end World

end JobQueue.Rehearsal
