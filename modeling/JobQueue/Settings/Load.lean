import JobQueue.Error
import JobQueue.Settings.Basic
import JobQueue.Settings.Layers
import JobQueue.Toml.Document
import JobQueue.Word

/-!
# Loading settings

Settings are loaded from a settings file, or from nothing, with the environment laid over it. A
variable speaks for the queue when its name in lower case starts with `drover_`; two underscores
lead from a table to a key in it. Its text is taken for a truth value or a number where it writes
one.

* `Settings.ofVariable?` is the entry that a variable gives.
* `Settings.ofValue?` turns the values into settings, each setting that is absent at its standard
  value.
* `Settings.load` does both, and validates what comes out.
-/

namespace JobQueue.Settings

open Document (Source RecordReader fieldOr nullable)

/-! ## The environment -/

/-- A character in lower case. Beyond ASCII only the sign for degrees Kelvin has a lower case that
can occur in the name of a setting. -/
def lowerChar (c : Char) : Char := if c = '\u212a' then 'k' else c.toLower

/-- What the names of variables of the queue start with, in lower case. -/
def variableMark : List Char := "drover_".toList

/-- A name with a point for every two underscores. -/
def splitLevels : List Char → List Char
  | '_' :: '_' :: s => '.' :: splitLevels s
  | c :: s => c :: splitLevels s
  | [] => []

/-- The value that the text of a variable writes. -/
def variableValue (text : String) : Value :=
  let word := String.ofList (text.toList.map Char.toLower)
  if word = "true" then .bool true
  else if word = "false" then .bool false
  else
    let (negative, digits) := Binary64.readSign text.toList
    let n : Int := Text.digitsToNat digits
    let n := if negative then -n else n
    if !digits.isEmpty && digits.all Text.isDigit && Word.holdsSigned 64 n then .int n
    else
      match Binary64.ofText? text with
      | some x => .float x
      | none => .text text

/-- The entry that a variable gives: the path of a setting, and its value. Other variables give
none. -/
def ofVariable? (name text : String) : Option (String × Value) :=
  let chars := name.toList.map lowerChar
  if variableMark.isPrefixOf chars then
    some (String.ofList (splitLevels (chars.drop variableMark.length)), variableValue text)
  else none

/-! ## From values to settings -/

/-- A counter of 64 bits. -/
def counter64? (v : Value) : Option UInt64 := v.toNat?.map UInt64.ofNat

/-- A counter of 32 bits. -/
def counter32? (v : Value) : Option UInt32 :=
  v.toNat?.bind fun n => if n < Word.size 32 then some (UInt32.ofNat n) else none

/-- Takes the fields of a backoff policy. -/
def backoffReader : RecordReader Value Backoff := do
  let baseMs ← fieldOr "base_ms" Backoff.standard.baseMs counter64?
  let factor ← fieldOr "factor" Backoff.standard.factor Value.toBinary64?
  let maxMs ← fieldOr "max_ms" Backoff.standard.maxMs counter64?
  pure { baseMs, factor, maxMs }

/-- The backoff policy of a table, or of a list of its fields in order. -/
def backoff? (v : Value) : Option Backoff :=
  match v with
  | .table entries => (backoffReader (.named entries)).map (·.1)
  | .list items => (backoffReader (.listed items)).map (·.1)
  | _ => none

/-- Takes the fields of settings. -/
def valueReader : RecordReader Value Settings := do
  let concurrency ← fieldOr "concurrency" standard.concurrency counter64?
  let idlePollIntervalMs ← fieldOr "idle_poll_interval_ms" standard.idlePollIntervalMs counter64?
  let visibilityTimeoutMs ← fieldOr "visibility_timeout_ms" standard.visibilityTimeoutMs counter64?
  let heartbeatIntervalMs ← fieldOr "heartbeat_interval_ms" standard.heartbeatIntervalMs counter64?
  let backoff ← fieldOr "backoff" standard.backoff backoff?
  let defaultMaxAttempts ← fieldOr "default_max_attempts" standard.defaultMaxAttempts counter32?
  let dlqRetentionDays ←
    fieldOr "dlq_retention_days" standard.dlqRetentionDays (nullable Value.isAbsent counter32?)
  let dlqPruneIntervalMs ← fieldOr "dlq_prune_interval_ms" standard.dlqPruneIntervalMs counter64?
  let shutdownTimeoutMs ← fieldOr "shutdown_timeout_ms" standard.shutdownTimeoutMs counter64?
  let workerPrefix ← fieldOr "worker_prefix" standard.workerPrefix Value.toText?
  pure
    { concurrency, idlePollIntervalMs, visibilityTimeoutMs, heartbeatIntervalMs, backoff,
      defaultMaxAttempts, dlqRetentionDays, dlqPruneIntervalMs, shutdownTimeoutMs, workerPrefix }

/-- The settings that values give. -/
def ofValue? (root : Value) : Option Settings := (valueReader (.named root.entries)).map (·.1)

/-! ## Loading -/

/-- Why settings could not be loaded. -/
inductive LoadError where
  /-- The settings file is none, or a value does not suit its setting. -/
  | unreadable
  | invalid (rule : InvalidSetting)
  deriving DecidableEq

/-- The error of the queue for settings that could not be loaded. -/
def LoadError.toQueueError : LoadError → QueueError
  | .unreadable => .config "unreadable settings"
  | .invalid rule => .config rule.message

/-- The values of a settings file with the environment laid over them. -/
def layers (file : List (String × Value)) (environment : List (String × String)) : Value :=
  Value.lay (environment.filterMap fun v => ofVariable? v.1 v.2) (Value.lay file (.table []))

/-- Loads settings from the text of a settings file, if there is one, and the environment. -/
def load (file : Option String) (environment : List (String × String)) :
    Except LoadError Settings := do
  let entries ← match file with
    | none => pure []
    | some text =>
      match Toml.parse text with
      | some entries => pure entries
      | none => throw .unreadable
  match ofValue? (layers entries environment) with
  | none => throw .unreadable
  | some s =>
    match s.validate with
    | .ok () => pure s
    | .error rule => throw (.invalid rule)

end JobQueue.Settings
