import JobQueue.Backoff
import JobQueue.Document.Json
import JobQueue.Binary64.Layout
import JobQueue.Text.Blank
import JobQueue.Text.Inspect

/-!
# Settings

The settings of a queue, their standard values, and the rules that they must satisfy before a queue
is run with them.

* `Settings.validate` gives the first rule that is broken.
* `InvalidSetting.message` is what is said about it.
-/

namespace JobQueue

open Document

/-- How workers poll, how long locks last, how failures are retried and how long dead letters are
kept. -/
structure Settings where
  /-- The number of workers. -/
  concurrency : UInt64
  /-- How long a worker sleeps when nothing is claimable. -/
  idlePollIntervalMs : UInt64
  /-- How long a lock lasts without being renewed. -/
  visibilityTimeoutMs : UInt64
  /-- How often a lock is renewed while a handler runs. -/
  heartbeatIntervalMs : UInt64
  backoff : Backoff
  /-- The attempts of a job that asks for no number of its own. -/
  defaultMaxAttempts : UInt32
  /-- How long dead letters are kept; `none` keeps them. -/
  dlqRetentionDays : Option UInt32
  /-- How often old dead letters are removed. -/
  dlqPruneIntervalMs : UInt64
  /-- How long a shutdown waits for each task. -/
  shutdownTimeoutMs : UInt64
  /-- The first part of the name of every worker. -/
  workerPrefix : String
  deriving DecidableEq

/-- A rule that settings break. -/
inductive InvalidSetting where
  | concurrency
  | defaultMaxAttempts
  | visibilityTimeout
  | heartbeatInterval
  | backoffFactor
  | backoffBase
  | pruneInterval
  | workerPrefix
  deriving DecidableEq

namespace InvalidSetting

/-- What is said about a broken rule. -/
def message : InvalidSetting → String
  | .concurrency => "concurrency must be at least 1"
  | .defaultMaxAttempts => "default_max_attempts must be at least 1"
  | .visibilityTimeout => "visibility_timeout_ms must be positive and at most 7 days"
  | .heartbeatInterval => "heartbeat_interval_ms must be positive and below visibility_timeout_ms"
  | .backoffFactor => "backoff.factor must be a finite value >= 1.0"
  | .backoffBase => "backoff.base_ms must not exceed backoff.max_ms"
  | .pruneInterval => "dlq_prune_interval_ms must be positive"
  | .workerPrefix => "worker_prefix must not be empty"

end InvalidSetting

namespace Settings

/-- The longest visibility timeout: seven days. -/
def maxVisibilityTimeoutMs : UInt64 := 604800000

/-- The settings of a queue that is given none. -/
def standard : Settings where
  concurrency := 4
  idlePollIntervalMs := 1000
  visibilityTimeoutMs := 60000
  heartbeatIntervalMs := 15000
  backoff := .standard
  defaultMaxAttempts := 3
  dlqRetentionDays := some 30
  dlqPruneIntervalMs := 3600000
  shutdownTimeoutMs := 30000
  workerPrefix := "drover"

/-- Settings for quick rehearsals: short polls and locks, and no delay between attempts. -/
def fast : Settings :=
  { standard with
    concurrency := 2
    idlePollIntervalMs := 10
    visibilityTimeoutMs := 500
    heartbeatIntervalMs := 100
    backoff := ⟨0, Binary64.ofNat 2, 0⟩
    dlqRetentionDays := none
    shutdownTimeoutMs := 2000
    workerPrefix := "test" }

/-- Whether a factor never shrinks a delay: it is finite and at least one. -/
def factorAdmitted (x : Binary64) : Bool := x.isFinite && Binary64.one.le x

/-- The first broken rule, if there is one. -/
def broken? (s : Settings) : Option InvalidSetting :=
  if s.concurrency = 0 then some .concurrency
  else if s.defaultMaxAttempts = 0 then some .defaultMaxAttempts
  else if s.visibilityTimeoutMs = 0 ∨ maxVisibilityTimeoutMs < s.visibilityTimeoutMs then
    some .visibilityTimeout
  else if s.heartbeatIntervalMs = 0 ∨ s.visibilityTimeoutMs ≤ s.heartbeatIntervalMs then
    some .heartbeatInterval
  else if !factorAdmitted s.backoff.factor then some .backoffFactor
  else if s.backoff.maxMs < s.backoff.baseMs then some .backoffBase
  else if s.dlqPruneIntervalMs = 0 then some .pruneInterval
  else if Text.isAllBlank s.workerPrefix then some .workerPrefix
  else none

/-- Accepts the settings, or says which rule they break. -/
def validate (s : Settings) : Except InvalidSetting Unit :=
  match s.broken? with
  | some rule => .error rule
  | none => .ok ()

end Settings

/-! ## Documents -/

/-- Takes the fields of a backoff policy, each with its standard value. -/
def Backoff.reader : RecordReader Json Backoff := do
  let baseMs ← fieldOr "base_ms" Backoff.standard.baseMs uint64?
  let factor ← fieldOr "factor" Backoff.standard.factor binary64?
  let maxMs ← fieldOr "max_ms" Backoff.standard.maxMs uint64?
  pure { baseMs, factor, maxMs }

/-- The policy a document holds. -/
def Backoff.ofJson? (j : Json) : Option Backoff := record? Backoff.reader j

/-- The document of a policy; a factor that is not finite is null. -/
def Backoff.toJson (b : Backoff) : Json :=
  .object [
    ("base_ms", ofUInt64 b.baseMs),
    ("factor", Json.ofBinary64 b.factor),
    ("max_ms", ofUInt64 b.maxMs)]

/-- The view of a policy for inspection. -/
def Backoff.inspect (b : Backoff) : String :=
  Text.inspectRecord "BackoffPolicy"
    [("base_ms", toString b.baseMs.toNat), ("factor", b.factor.write .inspect),
      ("max_ms", toString b.maxMs.toNat)]

namespace Settings

/-- Takes the fields of settings, each with its standard value. -/
def reader : RecordReader Json Settings := do
  let concurrency ← fieldOr "concurrency" standard.concurrency uint64?
  let idlePollIntervalMs ← fieldOr "idle_poll_interval_ms" standard.idlePollIntervalMs uint64?
  let visibilityTimeoutMs ← fieldOr "visibility_timeout_ms" standard.visibilityTimeoutMs uint64?
  let heartbeatIntervalMs ← fieldOr "heartbeat_interval_ms" standard.heartbeatIntervalMs uint64?
  let backoff ← fieldOr "backoff" standard.backoff Backoff.ofJson?
  let defaultMaxAttempts ← fieldOr "default_max_attempts" standard.defaultMaxAttempts uint32?
  let dlqRetentionDays ←
    fieldOr "dlq_retention_days" standard.dlqRetentionDays (nullable isNull uint32?)
  let dlqPruneIntervalMs ← fieldOr "dlq_prune_interval_ms" standard.dlqPruneIntervalMs uint64?
  let shutdownTimeoutMs ← fieldOr "shutdown_timeout_ms" standard.shutdownTimeoutMs uint64?
  let workerPrefix ← fieldOr "worker_prefix" standard.workerPrefix string?
  pure
    { concurrency, idlePollIntervalMs, visibilityTimeoutMs, heartbeatIntervalMs, backoff,
      defaultMaxAttempts, dlqRetentionDays, dlqPruneIntervalMs, shutdownTimeoutMs, workerPrefix }

/-- The settings a document holds. -/
def ofJson? (j : Json) : Option Settings := record? reader j

/-- The document of settings. -/
def toJson (s : Settings) : Json :=
  .object [
    ("concurrency", ofUInt64 s.concurrency),
    ("idle_poll_interval_ms", ofUInt64 s.idlePollIntervalMs),
    ("visibility_timeout_ms", ofUInt64 s.visibilityTimeoutMs),
    ("heartbeat_interval_ms", ofUInt64 s.heartbeatIntervalMs),
    ("backoff", s.backoff.toJson),
    ("default_max_attempts", ofUInt32 s.defaultMaxAttempts),
    ("dlq_retention_days", Json.ofOption ofUInt32 s.dlqRetentionDays),
    ("dlq_prune_interval_ms", ofUInt64 s.dlqPruneIntervalMs),
    ("shutdown_timeout_ms", ofUInt64 s.shutdownTimeoutMs),
    ("worker_prefix", .string s.workerPrefix)]

/-- The view of settings for inspection. -/
def inspect (s : Settings) : String :=
  Text.inspectRecord "QueueConfig" [
    ("concurrency", toString s.concurrency.toNat),
    ("idle_poll_interval_ms", toString s.idlePollIntervalMs.toNat),
    ("visibility_timeout_ms", toString s.visibilityTimeoutMs.toNat),
    ("heartbeat_interval_ms", toString s.heartbeatIntervalMs.toNat),
    ("backoff", s.backoff.inspect),
    ("default_max_attempts", toString s.defaultMaxAttempts.toNat),
    ("dlq_retention_days",
      Text.inspectOption (s.dlqRetentionDays.map fun days => toString days.toNat)),
    ("dlq_prune_interval_ms", toString s.dlqPruneIntervalMs.toNat),
    ("shutdown_timeout_ms", toString s.shutdownTimeoutMs.toNat),
    ("worker_prefix", Text.inspect s.workerPrefix)]

end Settings

/-- How the database behind a store is reached. -/
structure ConnectionSettings where
  connectionString : String
  maxConnections : UInt32
  minConnections : UInt32
  acquireTimeoutSeconds : UInt64
  deriving DecidableEq

namespace ConnectionSettings

/-- A pool of the standard size. -/
def ofString (connectionString : String) : ConnectionSettings := ⟨connectionString, 10, 1, 5⟩

/-- Whether a pool of this size and patience can get a connection at all. -/
def canConnect (s : ConnectionSettings) : Bool :=
  0 < s.maxConnections && 0 < s.acquireTimeoutSeconds

/-- Takes the fields of connection settings. Only the connection string must be given. -/
def reader : RecordReader Json ConnectionSettings := do
  let connectionString ← field "connection_string" string?
  let standard := ofString connectionString
  let maxConnections ← fieldOr "max_connections" standard.maxConnections uint32?
  let minConnections ← fieldOr "min_connections" standard.minConnections uint32?
  let acquireTimeoutSeconds ←
    fieldOr "acquire_timeout_seconds" standard.acquireTimeoutSeconds uint64?
  pure { connectionString, maxConnections, minConnections, acquireTimeoutSeconds }

/-- The connection settings a document holds. -/
def ofJson? (j : Json) : Option ConnectionSettings := record? reader j

/-- The document of connection settings. -/
def toJson (s : ConnectionSettings) : Json :=
  .object [
    ("connection_string", .string s.connectionString),
    ("max_connections", ofUInt32 s.maxConnections),
    ("min_connections", ofUInt32 s.minConnections),
    ("acquire_timeout_seconds", ofUInt64 s.acquireTimeoutSeconds)]

end ConnectionSettings

end JobQueue
