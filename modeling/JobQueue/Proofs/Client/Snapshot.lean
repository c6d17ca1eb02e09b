import JobQueue.Client.Basic
import JobQueue.Proofs.Program.Alone
import JobQueue.Proofs.Store.Headcount
import Mathlib.Algebra.Group.Nat.Defs
import Mathlib.Data.List.Nodup

/-!
# Snapshots of a client

A snapshot counts the jobs in two rounds. The first one makes an entry for a type when it meets the
first job of it, and the second one sums up the entries. A store keeps its jobs in no order of its
own, and a snapshot its entries, so neither round may depend on the order it takes.

* `StatusCounts.Counts`: counts that are those of some jobs.
* `Snapshot.totals_add` and `Snapshot.totals_perm`: a job adds to the totals what it adds to the
  entry of its type, and the totals are the same in every order of the entries.
* `Client.snapshot_counts_jobs`: what a client answers for a snapshot is exact.
-/

namespace JobQueue

/-! ## Counts -/

namespace StatusCounts

/-- The counts are those of some jobs, each state for itself and all in all. They are words of 64
bits, and exact while there are fewer jobs than these can tell. -/
structure Counts (c : StatusCounts) (jobs : List Job) : Prop where
  each : ∀ status, c.of status = UInt64.ofNat (jobs.countP fun job => job.status = status)
  total : c.total = UInt64.ofNat jobs.length
  sum : c.total = c.queued + c.processing + c.succeeded + c.failed
  exact : jobs.length < 2 ^ 64 →
    (∀ status, (c.of status).toNat = jobs.countP fun job => job.status = status) ∧
    c.total.toNat = jobs.length ∧
    c.total.toNat = c.queued.toNat + c.processing.toNat + c.succeeded.toNat + c.failed.toNat

theorem length_eq_countP_status (jobs : List Job) :
    jobs.length = (jobs.countP fun job => job.status = .queued) +
      (jobs.countP fun job => job.status = .processing) +
      (jobs.countP fun job => job.status = .succeeded) +
      jobs.countP fun job => job.status = .failed := by
  induction jobs with
  | nil => rfl
  | cons job rest ih =>
    simp only [List.length_cons, List.countP_cons, ih]
    cases job.status <;> simp <;> omega

variable {c d : StatusCounts} {jobs others : List Job}

/-- Counts of every state and of all jobs are the sum of each other, as each job is in one state. -/
theorem Counts.of_each
    (each : ∀ status, c.of status = UInt64.ofNat (jobs.countP fun job => job.status = status))
    (total : c.total = UInt64.ofNat jobs.length) : c.Counts jobs := by
  have parts := length_eq_countP_status jobs
  refine ⟨each, total, ?_, fun few => ?_⟩
  · have sum := congrArg UInt64.ofNat parts
    simp only [UInt64.ofNat_add, ← each] at sum
    exact total.trans sum
  · have state (status : Status) :
        (c.of status).toNat = jobs.countP fun job => job.status = status := by
      rw [each, UInt64.toNat_ofNat']
      exact Nat.mod_eq_of_lt (Nat.lt_of_le_of_lt List.countP_le_length few)
    have whole : c.total.toNat = jobs.length := by
      rw [total, UInt64.toNat_ofNat', Nat.mod_eq_of_lt few]
    refine ⟨state, whole, ?_⟩
    rw [whole, parts, ← state, ← state, ← state, ← state]
    rfl

theorem Counts.unique (hc : c.Counts jobs) (hd : d.Counts jobs) : c = d := by
  have same (status : Status) : c.of status = d.of status := by rw [hc.each, hd.each]
  have total : c.total = d.total := by rw [hc.total, hd.total]
  obtain ⟨queued, processing, succeeded, failed, all⟩ := c
  exact mk.injEq .. ▸ ⟨same .queued, same .processing, same .succeeded, same .failed, total⟩

theorem Counts.perm (h : jobs.Perm others) (hc : c.Counts jobs) : c.Counts others := by
  refine .of_each (fun status => ?_) ?_
  · rw [hc.each, h.countP_eq]
  · rw [hc.total, h.length_eq]

/-! Counts are summed up in any order. -/

theorem plus_right_comm (a b c : StatusCounts) : (a.plus b).plus c = (a.plus c).plus b := by
  simp only [plus, mk.injEq]
  refine ⟨?_, ?_, ?_, ?_, ?_⟩ <;> ac_rfl

theorem plus_add (a b : StatusCounts) (status : Status) (count : UInt64) :
    a.plus (b.add status count) = (a.plus b).add status count := by
  cases status <;> simp only [plus, add, UInt64.add_assoc]

theorem add_plus (a b : StatusCounts) (status : Status) (count : UInt64) :
    (a.add status count).plus b = (a.plus b).add status count := by
  have swap (x y : UInt64) : x + count + y = x + y + count := by ac_rfl
  cases status <;> simp only [plus, add, swap]

theorem plus_zero (a : StatusCounts) : a.plus zero = a := by
  simp only [plus, zero, UInt64.add_zero]

end StatusCounts

/-! ## Entries -/

namespace Snapshot

variable {s : Snapshot} {jobType : String} {status : Status} {count : UInt64}

/-- The types that a snapshot has an entry for. -/
def types (s : Snapshot) : List String := s.byType.map (·.1)

/-- A type that has no entry gets one behind the others. -/
theorem types_add :
    (s.add jobType status count).types =
      if jobType ∈ s.types then s.types else s.types ++ [jobType] := by
  obtain ⟨sampledAt, entries, deadLetters⟩ := s
  simp only [types, add]
  induction entries with
  | nil => rfl
  | cons e rest ih =>
    obtain ⟨name, counts⟩ := e
    rw [addEntry]
    split
    · rename_i same
      simp [same]
    · rename_i apart
      by_cases listed : jobType ∈ rest.map (·.1)
      · simp only [List.map_cons, ih, List.mem_cons, listed, or_true, ↓reduceIte]
      · simp only [List.map_cons, ih, List.mem_cons, listed, Ne.symm apart, or_false, ↓reduceIte,
          List.cons_append]

theorem mem_types_add {name : String} :
    name ∈ (s.add jobType status count).types ↔ name ∈ s.types ∨ name = jobType := by
  rw [types_add]
  split
  · rename_i listed
    exact ⟨.inl, fun h => h.elim id fun same => same ▸ listed⟩
  · rw [List.mem_append, List.mem_singleton]

theorem nodup_types_add (h : s.types.Nodup) : (s.add jobType status count).types.Nodup := by
  rw [types_add]
  split
  · exact h
  · rename_i new
    exact List.nodup_append.mpr ⟨h, List.nodup_singleton _, by
      intro name listed other here same
      exact new (List.mem_singleton.mp here ▸ same ▸ listed)⟩

/-- Where each type has one entry, the counts of a type are those of its entry. -/
theorem countsOf_of_mem {e : String × StatusCounts} (distinct : s.types.Nodup)
    (listed : e ∈ s.byType) : s.countsOf e.1 = e.2 := by
  have found : s.byType.find? (fun other => decide (other.1 = e.1)) = some e := by
    cases first : s.byType.find? (fun other => decide (other.1 = e.1)) with
    | none => simpa using List.find?_eq_none.mp first e listed
    | some other =>
      have same : other.1 = e.1 := by simpa using List.find?_some first
      rw [List.inj_on_of_nodup_map distinct (List.mem_of_find?_eq_some first) listed same]
  rw [countsOf, entry?, found]
  rfl

/-! ## Totals -/

theorem foldl_plus_add (entries : List (String × StatusCounts)) (acc : StatusCounts) :
    entries.foldl (fun acc e => acc.plus e.2) (acc.add status count) =
      (entries.foldl (fun acc e => acc.plus e.2) acc).add status count := by
  induction entries generalizing acc with
  | nil => rfl
  | cons e rest ih => rw [List.foldl_cons, StatusCounts.add_plus, ih, List.foldl_cons]

theorem foldl_plus_addEntry (entries : List (String × StatusCounts)) (acc : StatusCounts) :
    (addEntry jobType status count entries).foldl (fun acc e => acc.plus e.2) acc =
      (entries.foldl (fun acc e => acc.plus e.2) acc).add status count := by
  induction entries generalizing acc with
  | nil => exact (StatusCounts.plus_add acc .zero status count).trans (by
      rw [StatusCounts.plus_zero]; rfl)
  | cons e rest ih =>
    obtain ⟨name, counts⟩ := e
    rw [addEntry]
    split
    · rw [List.foldl_cons, StatusCounts.plus_add, foldl_plus_add, List.foldl_cons]
    · rw [List.foldl_cons, ih, List.foldl_cons]

/-- More jobs add to the totals what they add to the entry of their type. -/
theorem totals_add : (s.add jobType status count).totals = s.totals.add status count :=
  foldl_plus_addEntry s.byType .zero

/-- The totals are the same in every order of the entries. -/
theorem totals_perm {entries : List (String × StatusCounts)} (h : entries.Perm s.byType) :
    { s with byType := entries }.totals = s.totals :=
  h.foldl_eq' (fun _ _ _ _ _ => StatusCounts.plus_right_comm ..) _

end Snapshot

/-! ## The round over the jobs -/

theorem StatusCounts.Counts.cons {c : StatusCounts} {jobs : List Job} (h : c.Counts jobs)
    (job : Job) : (c.add job.status 1).Counts (job :: jobs) := by
  refine .of_each (fun status => ?_) ?_
  · rw [of_add, h.each, List.countP_cons, UInt64.ofNat_add]
    congr 1
    by_cases same : job.status = status <;> simp [same]
  · rw [total_add, h.total, List.length_cons, UInt64.ofNat_add]
    rfl

/-- The snapshot is that of some jobs: it has one entry for each type that a job has and no other,
the entry counts the jobs of the type, and the totals count them all, in whatever order the entries
are summed up. -/
structure Snapshot.Counts (snap : Snapshot) (jobs : List Job) : Prop where
  distinct : snap.types.Nodup
  types : ∀ name, name ∈ snap.types ↔ ∃ job ∈ jobs, job.jobType = name
  entries : ∀ e ∈ snap.byType, e.2.Counts (jobs.filter fun job => job.jobType = e.1)
  totals : ∀ entries, entries.Perm snap.byType →
    { snap with byType := entries }.totals.Counts jobs

namespace Snapshot

variable {a b : Snapshot} {jobs others : List Job}

theorem Counts.mem_of_perm (h : jobs.Perm others) (ha : a.Counts jobs) (hb : b.Counts others)
    {e : String × StatusCounts} (listed : e ∈ a.byType) : e ∈ b.byType := by
  obtain ⟨job, stored, same⟩ := (ha.types e.1).mp (List.mem_map_of_mem listed)
  obtain ⟨e', listed', name⟩ :=
    List.mem_map.mp ((hb.types e.1).mpr ⟨job, h.mem_iff.mp stored, same⟩)
  have counts := hb.entries e' listed'
  rw [name] at counts
  have equal : e' = e :=
    Prod.ext name (counts.unique ((ha.entries e listed).perm (h.filter _)))
  exact equal ▸ listed'

/-- The order of the jobs is at most that of the entries. -/
theorem Counts.byType_perm (h : jobs.Perm others) (ha : a.Counts jobs) (hb : b.Counts others) :
    a.byType.Perm b.byType :=
  (List.perm_ext_iff_of_nodup (.of_map _ ha.distinct) (.of_map _ hb.distinct)).mpr fun _ =>
    ⟨ha.mem_of_perm h hb, hb.mem_of_perm h.symm ha⟩

theorem Counts.totals_eq (h : jobs.Perm others) (ha : a.Counts jobs) (hb : b.Counts others) :
    a.totals = b.totals :=
  ((ha.totals _ (.refl _)).perm h).unique (hb.totals _ (.refl _))

end Snapshot

namespace Store

variable (s : Store) (now : Instant)

/-- What holds of a snapshot that counts nothing, and still holds when it counts one more job, holds
of the snapshot of a store. -/
theorem snapshot_induction {P : List Job → Snapshot → Prop} (start : P [] (.empty now))
    (step : ∀ job jobs snap, P jobs snap →
      P (job :: jobs) (snap.add job.jobType job.status 1)) :
    P s.jobs.reverse (s.snapshot now) := by
  rw [snapshot, ← List.foldr_reverse]
  induction s.jobs.reverse with
  | nil => exact start
  | cons job rest ih => exact step job rest _ ih

theorem nodup_types_snapshot : (s.snapshot now).types.Nodup :=
  snapshot_induction s now (P := fun _ snap => snap.types.Nodup) List.nodup_nil
    fun _ _ _ => Snapshot.nodup_types_add

theorem mem_types_snapshot (name : String) :
    name ∈ (s.snapshot now).types ↔ ∃ job ∈ s.jobs, job.jobType = name := by
  have met := snapshot_induction s now
    (P := fun jobs snap => name ∈ snap.types ↔ ∃ job ∈ jobs, job.jobType = name)
    (by simp [Snapshot.types, Snapshot.empty]) fun job jobs snap ih => by
      rw [Snapshot.mem_types_add, ih, List.exists_mem_cons_iff, or_comm, eq_comm]
  simpa only [List.mem_reverse] using met

theorem totals_snapshot : (s.snapshot now).totals.Counts s.jobs :=
  (snapshot_induction s now (P := fun jobs snap => snap.totals.Counts jobs)
    (.of_each (fun status => by cases status <;> rfl) rfl) fun job jobs snap ih => by
      rw [Snapshot.totals_add]
      exact ih.cons job).perm s.jobs.reverse_perm

/-- The snapshot of a store is that of its jobs. -/
theorem counts_snapshot : (s.snapshot now).Counts s.jobs where
  distinct := nodup_types_snapshot s now
  types := mem_types_snapshot s now
  entries e listed := by
    rw [← Snapshot.countsOf_of_mem (nodup_types_snapshot s now) listed]
    refine .of_each (fun status => ?_) ?_
    · rw [of_snapshot, List.countP_filter]
      refine congrArg UInt64.ofNat (congrFun (congrArg _ (funext fun job => ?_)) _)
      exact Bool.and_comm ..
    · rw [total_snapshot, List.countP_eq_length_filter]
  totals entries order := by
    rw [Snapshot.totals_perm order]
    exact totals_snapshot s now

end Store

/-! ## The program -/

namespace Client

variable {handler : Type}

/-- A client takes its snapshot of the store as it is then, and counts the dead-letter records if it
counts any. -/
theorem alone_snapshot (c : Client) (s : Store) (ahead : Nat → Surroundings) :
    ∃ snap rest, (c.snapshot : QueueProgram handler Snapshot).run.alone s ahead =
      (.ok snap, s, rest) ∧
      snap.sampledAt = (ahead 0).time ∧
      snap.Counts s.jobs ∧
      snap.deadLetters =
        if c.countsDeadLetters then UInt64.ofNat s.deadLetters.length else 0 := by
  have time : (s.snapshot (ahead 0).time).sampledAt = (ahead 0).time :=
    s.snapshot_induction _ (P := fun _ snap => snap.sampledAt = _) rfl fun _ _ _ ih => ih
  have none : (s.snapshot (ahead 0).time).deadLetters = 0 :=
    s.snapshot_induction _ (P := fun _ snap => snap.deadLetters = 0) rfl fun _ _ _ ih => ih
  have counts := s.counts_snapshot (ahead 0).time
  have taken (now : Instant) (ahead : Nat → Surroundings) :
      (QueueProgram.call (.snapshot now)).run.alone s ahead =
        (.ok (s.snapshot now), s, fun k => ahead (k + 1)) :=
    @QueueProgram.alone_call handler s ahead (.snapshot now)
  have counted (ahead : Nat → Surroundings) :
      (QueueProgram.call .countDeadLetters).run.alone s ahead =
        (.ok s.countDeadLetters, s, fun k => ahead (k + 1)) :=
    @QueueProgram.alone_call handler s ahead .countDeadLetters
  simp only [snapshot, QueueProgram.alone_bind, QueueProgram.alone_now, taken]
  cases c.countsDeadLetters with
  | true =>
    simp only [↓reduceIte, QueueProgram.alone_bind, counted, QueueProgram.alone_pure]
    exact ⟨_, _, rfl, time, ⟨counts.distinct, counts.types, counts.entries, counts.totals⟩, rfl⟩
  | false =>
    simp only [Bool.false_eq_true, ↓reduceIte, QueueProgram.alone_pure]
    exact ⟨_, _, rfl, time, counts, none⟩

/-- **Snapshots.** Whatever a store holds, a client answers for a snapshot one entry for each type
that a job of the store has, and none for any other. The entry counts the jobs of its type in each
state and in all, the totals count all jobs, in whatever order the entries are summed up, and the
dead-letter records are counted by a client that counts them. The store stays as it is, and what
order it keeps its jobs and records in makes no difference. -/
theorem snapshot_counts_jobs (c : Client) (s : Store) (ahead : Nat → Surroundings) :
    ∃ snap rest, (c.snapshot : QueueProgram handler Snapshot).run.alone s ahead =
      (.ok snap, s, rest) ∧
      snap.sampledAt = (ahead 0).time ∧
      snap.Counts s.jobs ∧
      snap.deadLetters =
        (if c.countsDeadLetters then UInt64.ofNat s.deadLetters.length else 0) ∧
      ∀ t : Store, t.jobs.Perm s.jobs → t.deadLetters.Perm s.deadLetters → ∃ snap' rest',
        (c.snapshot : QueueProgram handler Snapshot).run.alone t ahead = (.ok snap', t, rest') ∧
        snap'.sampledAt = snap.sampledAt ∧ snap'.byType.Perm snap.byType ∧
        snap'.totals = snap.totals ∧ snap'.deadLetters = snap.deadLetters := by
  obtain ⟨snap, rest, answered, time, counts, records⟩ := @alone_snapshot handler c s ahead
  refine ⟨snap, rest, answered, time, counts, records, fun t jobs held => ?_⟩
  obtain ⟨snap', rest', answered', time', counts', records'⟩ := @alone_snapshot handler c t ahead
  refine ⟨snap', rest', answered', time'.trans time.symm, counts'.byType_perm jobs counts,
    counts'.totals_eq jobs counts, ?_⟩
  rw [records', records, held.length_eq]

/-! ### A shelf

Two letters and a parcel, which one may also find in another order.
-/

namespace Shelf

def letter : Job := .queued (.ofNat 1) "mail" .null .epoch

def reply : Job := .queued (.ofNat 2) "mail" .null .epoch

def parcel : Job := { Job.queued (.ofNat 3) "parcels" .null .epoch with status := .failed }

def store : Store := ⟨[letter, parcel, reply], [], []⟩

def turned : Store := ⟨[parcel, reply, letter], [], []⟩

def client : Client := ⟨.standard, true⟩

def ahead : Nat → Surroundings := fun _ => ⟨.epoch, 0, .ofNat 0, .ok .null, false, none⟩

end Shelf

theorem snapshot_counts_jobs_shelf :
    ∃ snap snap' rest rest',
      (Shelf.client.snapshot : QueueProgram Unit Snapshot).run.alone Shelf.store Shelf.ahead =
        (.ok snap, Shelf.store, rest) ∧
      (Shelf.client.snapshot : QueueProgram Unit Snapshot).run.alone Shelf.turned Shelf.ahead =
        (.ok snap', Shelf.turned, rest') ∧
      snap.byType = [("mail", ⟨2, 0, 0, 0, 2⟩), ("parcels", ⟨0, 0, 0, 1, 1⟩)] ∧
      snap'.byType = [("parcels", ⟨0, 0, 0, 1, 1⟩), ("mail", ⟨2, 0, 0, 0, 2⟩)] ∧
      snap'.totals = snap.totals := by
  obtain ⟨snap, rest, answered, -, -, -, any⟩ :=
    @snapshot_counts_jobs Unit Shelf.client Shelf.store Shelf.ahead
  obtain ⟨snap', rest', answered', -, -, totals, -⟩ := any Shelf.turned (by decide) (by decide)
  refine ⟨snap, snap', rest, rest', answered, answered', ?_, ?_, totals⟩
  · cases answered
    decide
  · cases answered'
    decide

end Client

end JobQueue
