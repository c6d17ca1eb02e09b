import JobQueue.Store.Call

/-!
# Answers of a store as documents

What a store answers, written as a document. A listing may be written in full, by its identifiers,
or by its size and its two ends.
-/

namespace JobQueue

/-- How a listing is written. -/
inductive Listing where
  | full
  | ids
  | count
  deriving DecidableEq

/-- The document of a listing. -/
def Listing.write {α : Type} (l : Listing) (id : α → Uuid) (full : α → Json) (items : List α) :
    Json :=
  let ids := items.map fun a => Document.ofUuid (id a)
  match l with
  | .full => .array (items.map full)
  | .ids => .array ids
  | .count =>
    .object [("count", Json.ofNat ids.length), ("first", ids.head?.getD .null),
      ("last", ids.getLast?.getD .null)]

/-- The document of a pass over expired locks. The jobs that failed stand in the order of their
identifiers. -/
def StuckRelease.toJson (r : StuckRelease) (ofJob : Job → Json) : Json :=
  let exhausted := r.exhausted.mergeSort fun a b => decide (a.id.toNat ≤ b.id.toNat)
  .object [("requeued", Document.ofUInt64 r.requeued), ("exhausted", .array (exhausted.map ofJob)),
    ("empty", .bool r.isEmpty)]

/-- The document of a snapshot with its totals. -/
def Snapshot.withTotals (s : Snapshot) : Json :=
  .object [("snapshot", s.toJson), ("totals", s.totals.toJson)]

/-- The document of what a call answers. -/
def Call.answerJson (listing : Listing) : (call : Call) → call.Answer → Json
  | .insert _, a => Job.toJson a
  | .find _, a => Json.ofOption Job.toJson a
  | .list _, a => listing.write Job.id Job.toJson a
  | .claimNext _ _, a => Json.ofOption Job.toJson a
  | .heartbeat _ _ _, a => .bool a
  | .markSucceeded _ _ _ _, a => .bool a
  | .markRetry _ _ _ _ _, a => .bool a
  | .markFailed _ _ _ _, a => Json.ofOption Job.toJson a
  | .releaseStuck _, a => StuckRelease.toJson a Job.toJson
  | .snapshot _, a => Snapshot.withTotals a
  | .insertDeadLetter _, a => DeadLetter.toJson a
  | .findDeadLetter _, a => Json.ofOption DeadLetter.toJson a
  | .listDeadLetters _, a => listing.write DeadLetter.id DeadLetter.toJson a
  | .incrementRetryCount _ _, a => Json.ofOption DeadLetter.toJson a
  | .deleteDeadLetter _, a => .bool a
  | .deleteDeadLettersBefore _, a => Document.ofUInt64 a
  | .countDeadLetters, a => Document.ofUInt64 a

end JobQueue
