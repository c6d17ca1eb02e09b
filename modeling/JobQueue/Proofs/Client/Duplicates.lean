import JobQueue.Proofs.Client.Submission
import JobQueue.Proofs.Fingerprint
import JobQueue.Proofs.Store.Continuation
import JobQueue.Proofs.Store.Keys
import JobQueue.Proofs.Store.Records
import Mathlib.Data.List.Induction

/-!
# Which submissions are refused

A store is filled by submissions, of clients or of dead-letter records, and worked on by any calls
of any workers. A further submission is refused as invalid by its own content alone. A valid one is
refused as a duplicate exactly when a job of its type and payload is there that has not failed, and
is put in otherwise.

* `Operation`: a submission, a new submission of a record, or any other call. `Store.following` is
  the store after a run of such operations, `hashedIn` the texts that were hashed on the way.
* `Operation.Orderly`: what is taken for granted of a run. Identifiers are fresh, payloads are
  proper, and no two of the texts that are hashed have one digest.
* `Accounted`: what is known of every document then: its key is the fingerprint of its type and
  payload until it fails.
* `Client.enqueue_verdict`: how a further submission is answered.
-/

namespace JobQueue

/-! ## Operations -/

/-- The identifier that an operation draws, if it draws one, and what it reads on the clock. -/
structure Occasion where
  id : Uuid
  clock : Nat → Instant

/-- The surroundings of an operation. -/
def Occasion.ahead (w : Occasion) (n : Nat) : Surroundings :=
  ⟨w.clock n, 0, w.id, .ok .null, false, none⟩

@[simp] theorem Occasion.id_ahead (w : Occasion) (n : Nat) : (w.ahead n).id = w.id := rfl

@[simp] theorem Occasion.time_ahead (w : Occasion) (n : Nat) : (w.ahead n).time = w.clock n := rfl

/-- What is done to a store: a program that submits, or a call by whoever it may be. -/
inductive Operation where
  | enqueue (c : Client) (r : NewJob) (w : Occasion)
  | retry (q : DeadLetterQueue) (target : Uuid) (w : Occasion)
  | call (c : Call)

/-- The texts that the check of a submission lets through to be hashed. -/
def Client.hashed (c : Client) (r : NewJob) : List String :=
  match c.check r with
  | .ok admitted => [fingerprintText admitted.jobType admitted.payload]
  | .error _ => []

namespace Operation

/-- The store after an operation. -/
def after (s : Store) : Operation → Store
  | enqueue c r w => ((c.enqueue r : QueueProgram Unit Job).run.alone s w.ahead).2.1
  | retry q target w => ((q.retry target : QueueProgram Unit Resubmission).run.alone s w.ahead).2.1
  | call c => (s.perform c).2

theorem after_enqueue (s : Store) (c : Client) (r : NewJob) (w : Occasion) :
    after s (.enqueue c r w) = (c.submitted r s w.id (w.clock 1)).2 := by
  obtain ⟨n, alone⟩ := @Client.alone_enqueue Unit c r s w.ahead
  rw [after, alone, Occasion.id_ahead, Occasion.time_ahead]

theorem after_retry (s : Store) (q : DeadLetterQueue) (target : Uuid) (w : Occasion) :
    ∃ later, after s (.retry q target w) =
      (q.retried target s w.id (w.clock 3) later).2 := by
  obtain ⟨m, n, alone⟩ := @DeadLetterQueue.alone_retry Unit q target s w.ahead
  refine ⟨w.clock m, ?_⟩
  rw [after, alone, Occasion.id_ahead, Occasion.time_ahead, Occasion.time_ahead]

/-- The identifier that an operation may draw. -/
def id? : Operation → Option Uuid
  | enqueue _ _ w => some w.id
  | retry _ _ w => some w.id
  | call _ => none

/-- The texts that an operation hashes. -/
def hashed (s : Store) : Operation → List String
  | enqueue c r _ => c.hashed r
  | retry q target _ =>
    match s.findDeadLetter? target with
    | some record => q.client.hashed (DeadLetterQueue.resubmission record)
    | none => []
  | call _ => []

/-- Whether an operation brings proper payloads, and puts no job in but by a submission. -/
def isProper : Operation → Bool
  | enqueue _ r _ => r.payload.isProper
  | call (.insert _) => false
  | call (.insertDeadLetter record) => record.payload.isProper
  | _ => true

end Operation

/-- The store after some operations. -/
def Store.following (s : Store) (run : List Operation) : Store := run.foldl Operation.after s

/-- The texts that some operations hash. -/
def hashedIn (s : Store) : List Operation → List String
  | [] => []
  | o :: run => o.hashed s ++ hashedIn (o.after s) run

/-- No two different ones of some texts have one digest. -/
def NoCollision (texts : List String) : Prop :=
  ∀ a ∈ texts, ∀ b ∈ texts,
    Digest.sha256Hex a.toUTF8.toList = Digest.sha256Hex b.toUTF8.toList → a = b

/-- What is taken for granted of a run from the empty store. -/
structure Orderly (run : List Operation) : Prop where
  fresh : (run.filterMap Operation.id?).Nodup
  proper : ∀ o ∈ run, o.isProper = true
  noCollision : NoCollision (hashedIn .empty run)

theorem Store.following_concat (s : Store) (run : List Operation) (o : Operation) :
    s.following (run ++ [o]) = o.after (s.following run) := List.foldl_concat ..

theorem hashedIn_concat (s : Store) (run : List Operation) (o : Operation) :
    hashedIn s (run ++ [o]) = hashedIn s run ++ o.hashed (s.following run) := by
  induction run generalizing s with
  | nil => simp [hashedIn, Store.following]
  | cons first run ih =>
    rw [List.cons_append, hashedIn, hashedIn, ih, List.append_assoc]
    rfl

theorem Orderly.of_concat {run : List Operation} {o : Operation} (h : Orderly (run ++ [o])) :
    Orderly run where
  fresh := h.fresh.sublist ((List.sublist_append_left run [o]).filterMap _)
  proper := fun p hp => h.proper p (List.mem_append_left _ hp)
  noCollision := fun a ha b hb => h.noCollision a
    (hashedIn_concat .empty run o ▸ List.mem_append_left _ ha) b
    (hashedIn_concat .empty run o ▸ List.mem_append_left _ hb)

/-! ## What is known of a document -/

/-- The key of a document is the fingerprint of its type and payload, a text that was hashed, until
the job fails. -/
structure Job.Accounted (texts : List String) (job : Job) : Prop where
  key : job.idempotencyKey =
    if job.status = .failed then none else some (fingerprint job.jobType job.payload)
  proper : job.payload.isProper = true
  hashed : fingerprintText job.jobType job.payload ∈ texts

variable {ids ids' : List Uuid} {texts texts' : List String} {s : Store}

/-- A key that was made of the content of a document stays until the job fails, and is gone then. -/
theorem Change.key_of_content {c : Call} {old new : Job} (h : Change c (some old) (some new))
    (kept : c ≠ .insert new)
    (key : old.idempotencyKey =
      if old.status = .failed then none else some (fingerprint old.jobType old.payload)) :
    new.idempotencyKey =
      if new.status = .failed then none else some (fingerprint new.jobType new.payload) := by
  have continues := h.continues kept
  by_cases failed : new.status = .failed
  · rw [if_pos failed]
    rcases h.key_of_failed kept failed with rfl | released
    · rw [key, if_pos failed]
    · exact released
  · rw [if_neg failed, continues.key failed, key, if_neg (continues.not_failed failed),
      continues.jobType, continues.payload]

/-- A call that does not put a job in its place keeps what is known of a document. -/
theorem Change.accounted {c : Call} {old new : Job} (h : Change c (some old) (some new))
    (kept : c ≠ .insert new) (known : old.Accounted texts) : new.Accounted texts where
  key := h.key_of_content kept known.key
  proper := by rw [(h.continues kept).payload, known.proper]
  hashed := by
    rw [(h.continues kept).jobType, (h.continues kept).payload]
    exact known.hashed

/-! ## What is known of a store -/

/-- A store whose jobs have identifiers among these and were submitted with texts among those. -/
structure Sound (ids : List Uuid) (texts : List String) (s : Store) : Prop where
  unique : s.UniqueIds
  indexed : s.Indexed
  drawn : ∀ job ∈ s.jobs, job.id ∈ ids
  accounted : ∀ job ∈ s.jobs, job.Accounted texts
  records : ∀ record ∈ s.deadLetters, record.payload.isProper = true

theorem sound_empty : Sound [] [] .empty where
  unique := Store.uniqueIds_empty
  indexed := Store.indexed_empty
  drawn := by simp [Store.empty]
  accounted := by simp [Store.empty]
  records := by simp [Store.empty]

theorem Sound.mono (h : Sound ids texts s) (hids : ids ⊆ ids') (htexts : texts ⊆ texts') :
    Sound ids' texts' s where
  unique := h.unique
  indexed := h.indexed
  drawn := fun job hjob => hids (h.drawn job hjob)
  accounted := fun job hjob =>
    { h.accounted job hjob with hashed := htexts (h.accounted job hjob).hashed }
  records := h.records

/-- A call keeps a store sound, if a job that it puts in is new and known. -/
theorem Sound.perform (h : Sound ids texts s) {c : Call}
    (put : ∀ job, c = .insert job → s.find? job.id = none ∧ job.id ∈ ids ∧ job.Accounted texts)
    (record : ∀ record, c = .insertDeadLetter record → record.payload.isProper = true) :
    Sound ids texts (s.perform c).2 where
  unique := Store.uniqueIds_perform h.unique c
  indexed := Store.indexed_perform h.indexed h.unique c fun job hc => (put job hc).1
  drawn := by
    intro job hjob
    rcases Store.id_mem_or_eq_insert h.unique hjob with ⟨old, hold, hid⟩ | hc
    · exact hid ▸ h.drawn old hold
    · exact (put job hc).2.1
  accounted := by
    intro job hjob
    rcases Store.change_of_mem_perform h.unique hjob with hc | ⟨kept, old, before, change⟩
    · exact (put job hc).2.2
    · exact change.accounted kept (h.accounted old before)
  records := by
    intro r hr
    rcases Store.origin_of_mem_perform hr with hc | ⟨old, hold, count, time, rfl⟩
    · exact record r hc
    · exact h.records old hold

/-- A submission takes its identifier and brings the text that it hashes. -/
theorem Sound.submitted (h : Sound ids texts s) (c : Client) {r : NewJob}
    (proper : r.payload.isProper = true) {id : Uuid} (fresh : id ∉ ids) (now : Instant) :
    Sound (ids ++ [id]) (texts ++ c.hashed r) (c.submitted r s id now).2 := by
  have wider : Sound (ids ++ [id]) (texts ++ c.hashed r) s :=
    h.mono (List.subset_append_left ..) (List.subset_append_left ..)
  rcases c.check_cases r with ⟨-, why, hcheck | hcheck⟩ | ⟨-, hcheck⟩
  · rwa [Client.submitted, hcheck]
  · rwa [Client.submitted, hcheck]
  · have text : c.hashed r = [fingerprintText (Text.trim r.jobType) r.payload] := by
      rw [Client.hashed, hcheck]
    rw [Client.submitted, hcheck]
    refine wider.perform (c := .insert _) ?_ (by simp)
    rintro job hc
    cases hc
    refine ⟨?_, List.mem_append_right _ List.mem_cons_self, rfl, proper, ?_⟩
    · exact Store.find?_eq_none_iff.mpr fun job hjob hid =>
        fresh ((show job.id = id from hid) ▸ h.drawn job hjob)
    · exact List.mem_append_right _ (text ▸ List.mem_cons_self)

/-! ## What is known after a run -/

/-- An operation keeps a store sound. -/
theorem Sound.operation (h : Sound ids texts s) {o : Operation} (proper : o.isProper = true)
    (fresh : ∀ id, o.id? = some id → id ∉ ids) :
    Sound (ids ++ o.id?.toList) (texts ++ o.hashed s) (o.after s) := by
  cases o with
  | enqueue c r w =>
    rw [Operation.after_enqueue]
    exact h.submitted c proper (fresh w.id rfl) (w.clock 1)
  | retry q target w =>
    obtain ⟨later, after⟩ := Operation.after_retry s q target w
    rw [after, Operation.hashed]
    cases found : s.findDeadLetter? target with
    | none =>
      rw [DeadLetterQueue.retried, found]
      exact h.mono (List.subset_append_left ..) (List.subset_append_left ..)
    | some record =>
      have payload := h.records record (List.mem_of_find?_eq_some found)
      have next := h.submitted q.client (r := DeadLetterQueue.resubmission record) payload
        (fresh w.id rfl) (w.clock 3)
      rcases q.retried_store found w.id (w.clock 3) later with store | store
      · rwa [store]
      · rw [store]
        exact next.perform (by simp) (by simp)
  | call c =>
    simp only [Operation.id?, Option.toList_none, List.append_nil, Operation.hashed]
    refine h.perform ?_ ?_
    · rintro job rfl
      exact absurd proper (by simp [Operation.isProper])
    · rintro record rfl
      exact proper

/-- Every orderly run leaves a sound store. -/
theorem sound_following {run : List Operation} (h : Orderly run) :
    Sound (run.filterMap Operation.id?) (hashedIn .empty run) (Store.empty.following run) := by
  induction run using List.reverseRecOn with
  | nil => exact sound_empty
  | append_singleton run o ih =>
    have ids : (run ++ [o]).filterMap Operation.id? =
        run.filterMap Operation.id? ++ o.id?.toList := by
      rw [List.filterMap_append]
      cases hid : o.id? <;> simp [hid]
    have fresh := h.fresh
    rw [ids] at fresh
    rw [ids, hashedIn_concat, Store.following_concat]
    refine (ih h.of_concat).operation (h.proper o (by simp)) fun id hid taken => ?_
    exact (List.nodup_append.mp fresh).2.2 id taken id (by simp [hid]) rfl

/-! ## The verdict on a submission -/

/-- Whether a job of the type and payload of a submission is there that has not failed. -/
def Store.HoldsEqual (s : Store) (r : NewJob) : Prop :=
  ∃ job ∈ s.jobs, job.status ≠ .failed ∧ job.jobType = Text.trim r.jobType ∧
    job.payload.alike r.payload = true

/-- How a submission is answered, and what it makes of the store. -/
structure Client.Verdict (c : Client) (r : NewJob) (s : Store) (answer : Except QueueError Job)
    (after : Store) : Prop where
  /-- It is refused as invalid exactly when its content is. -/
  invalid : (∃ why, answer = .error (.invalidJobType why) ∨ answer = .error (.invalidPayload why)) ↔
    c.Refuses r
  /-- A valid one is refused as a duplicate exactly when an equal job is there that has not
  failed. -/
  duplicate : ¬c.Refuses r →
    ((∃ jobType key, answer = .error (.conflict jobType key)) ↔ s.HoldsEqual r)
  /-- Any other one is put in, as the only new job. -/
  accepted : ¬c.Refuses r → ¬s.HoldsEqual r → ∃ job, answer = .ok job ∧
    job.status = .queued ∧ job.attempts = 0 ∧
    job.jobType = Text.trim r.jobType ∧ job.payload = r.payload ∧
    after =
      { s with
        jobs := s.jobs ++ [job]
        keys := (fingerprint (Text.trim r.jobType) r.payload, job.id) :: s.keys }
  /-- What is refused leaves the store alone. -/
  unchanged : ∀ e, answer = .error e → after = s

/-- The fingerprint of a submission is taken exactly when an equal job is there that has not
failed. -/
theorem Sound.taken_iff (h : Sound ids texts s) {r : NewJob} (proper : r.payload.isProper = true)
    (hashed : fingerprintText (Text.trim r.jobType) r.payload ∈ texts)
    (noCollision : NoCollision texts) :
    (s.holder? (fingerprint (Text.trim r.jobType) r.payload)).isSome = true ↔ s.HoldsEqual r := by
  rw [h.indexed.isSome_holder?_iff h.unique]
  refine exists_congr fun job => and_congr_right fun hjob => ?_
  obtain ⟨key, jobProper, jobHashed⟩ := h.accounted job hjob
  rw [key]
  constructor
  · intro same
    split at same
    · cases same
    · rename_i going
      have texts := noCollision _ jobHashed _ hashed (Option.some.inj same)
      exact ⟨going, (fingerprintText_eq_iff jobProper proper).mp texts⟩
  · rintro ⟨going, same⟩
    have texts := (fingerprintText_eq_iff jobProper proper).mpr same
    rw [if_neg going, fingerprint, texts, fingerprint]

/-- How a submission to a sound store is answered. -/
theorem Sound.verdict (h : Sound ids texts s) (c : Client) {r : NewJob}
    (proper : r.payload.isProper = true) {id : Uuid} (fresh : id ∉ ids)
    (noCollision : NoCollision (texts ++ c.hashed r)) (now : Instant) :
    c.Verdict r s (c.submitted r s id now).1 (c.submitted r s id now).2 := by
  rcases c.check_cases r with ⟨refused, why, hcheck⟩ | ⟨valid, hcheck⟩
  · have answer : ∃ e, c.submitted r s id now = (.error e, s) ∧
        (e = .invalidJobType why ∨ e = .invalidPayload why) := by
      rcases hcheck with hcheck | hcheck <;> rw [Client.submitted, hcheck]
      · exact ⟨_, rfl, .inl rfl⟩
      · exact ⟨_, rfl, .inr rfl⟩
    obtain ⟨e, answer, kind⟩ := answer
    rw [answer]
    refine ⟨iff_of_true ⟨why, ?_⟩ refused, fun valid => absurd refused valid,
      fun valid => absurd refused valid, fun _ _ => rfl⟩
    exact kind.imp (congrArg Except.error) (congrArg Except.error)
  · have hashed : c.hashed r = [fingerprintText (Text.trim r.jobType) r.payload] := by
      rw [Client.hashed, hcheck]
    have taken := (h.mono (List.Subset.refl ids) (List.subset_append_left ..)).taken_iff
      proper (List.mem_append_right _ (hashed ▸ List.mem_cons_self)) noCollision
    have absent : ∀ other ∈ s.jobs, other.id ≠ id := fun other hother same =>
      fresh (same ▸ h.drawn other hother)
    rw [Client.submitted, hcheck]
    dsimp only
    generalize hjob : c.stamp _ id now = job
    have stamped : job.id = id ∧ job.status = .queued ∧ job.attempts = 0 ∧
        job.jobType = Text.trim r.jobType ∧ job.payload = r.payload ∧
        job.idempotencyKey = some (fingerprint (Text.trim r.jobType) r.payload) := by
      rw [← hjob]
      exact ⟨rfl, rfl, rfl, rfl, rfl, rfl⟩
    obtain ⟨hid, status, attempts, jobType, payload, key⟩ := stamped
    rw [Store.insert_of_key key]
    by_cases equal : s.HoldsEqual r
    · rw [if_pos (taken.mpr equal)]
      exact ⟨iff_of_false (by simp) valid, fun _ => iff_of_true ⟨_, _, rfl⟩ equal,
        fun _ other => absurd equal other, fun _ _ => rfl⟩
    · rw [if_neg (taken.not.mpr equal)]
      refine ⟨iff_of_false (by simp) valid, fun _ => iff_of_false (by simp) equal,
        fun _ _ => ⟨job, rfl, status, attempts, jobType, payload, ?_⟩, fun e he => by cases he⟩
      rw [Store.putJob_of_absent fun other hother => hid ▸ absent other hother]

/-- **How a submission is answered** after an orderly run: as invalid by its content alone, as a
duplicate while a job of its type and payload is there that has not failed, and else by the one job
that is put in. -/
theorem Client.enqueue_verdict {run : List Operation} {c : Client} {r : NewJob} {w : Occasion}
    (h : Orderly (run ++ [.enqueue c r w])) :
    let s := Store.empty.following run
    let ended := (c.enqueue r : QueueProgram Unit Job).run.alone s w.ahead
    c.Verdict r s ended.1 ended.2.1 := by
  intro s ended
  have sound := sound_following h.of_concat
  have fresh : w.id ∉ run.filterMap Operation.id? := by
    have distinct := h.fresh
    rw [List.filterMap_append] at distinct
    intro taken
    exact (List.nodup_append.mp distinct).2.2 w.id taken w.id (by simp [Operation.id?]) rfl
  have noCollision := h.noCollision
  rw [hashedIn_concat] at noCollision
  obtain ⟨n, alone⟩ := @Client.alone_enqueue Unit c r s w.ahead
  have ended_eq : ended = _ := alone
  rw [ended_eq, Occasion.id_ahead, Occasion.time_ahead]
  dsimp only
  exact sound.verdict c (h.proper (.enqueue c r w) (by simp)) fresh noCollision (w.clock 1)

/-! ### A letter that is sent twice

The same letter, written in two ways, is refused while the first one is under way, and taken once
that one failed.
-/

namespace Letter

def client : Client := ⟨.standard, false⟩

def first : NewJob := ⟨" mail ", .object [("to", .string "a"), ("cc", .null)], none, none⟩

def second : NewJob := ⟨"mail", .object [("cc", .null), ("to", .string "a")], none, none⟩

def occasion (n : Nat) : Occasion := ⟨.ofNat n, fun _ => .epoch⟩

/-- The first letter is sent. -/
def underWay : List Operation := [.enqueue client first (occasion 1)]

/-- A worker takes it and fails. -/
def failed : List Operation :=
  underWay ++ [.call (.claimNext "w" .epoch),
    .call (.markFailed (.ofNat 1) "w" (.visibilityTimeout none) .epoch)]

/-- The first letter as it is stored. -/
def stored : Job := client.stamp ⟨"mail", first.payload, 3, .normal⟩ (.ofNat 1) .epoch

theorem jobs_underWay : (Store.empty.following underWay).jobs = [stored] := rfl

theorem jobs_failed : (Store.empty.following failed).jobs =
    [Store.failed (Store.claimed stored "w" .epoch) (.visibilityTimeout none) .epoch] := rfl

/-- Both letters are hashed as one text. -/
theorem hashed_eq : client.hashed second = client.hashed first := by
  have hfirst : client.check first = .ok ⟨"mail", first.payload, 3, .normal⟩ := rfl
  have hsecond : client.check second = .ok ⟨"mail", second.payload, 3, .normal⟩ := rfl
  have text : fingerprintText "mail" second.payload = fingerprintText "mail" first.payload :=
    (fingerprintText_eq_iff (by decide) (by decide)).mpr ⟨rfl, by decide⟩
  rw [Client.hashed, hsecond, Client.hashed, hfirst]
  exact congrArg (fun text => [text]) text

theorem noCollision_hashed : NoCollision (client.hashed first ++ client.hashed second) := by
  have only : ∀ text ∈ client.hashed first ++ client.hashed second,
      text = fingerprintText "mail" first.payload := by
    intro text ht
    rw [hashed_eq, List.mem_append, or_self_iff] at ht
    exact List.mem_singleton.mp ht
  exact fun a ha b hb _ => (only a ha).trans (only b hb).symm

theorem orderly_underWay : Orderly (underWay ++ [.enqueue client second (occasion 2)]) where
  fresh := by decide
  proper := by decide
  noCollision := noCollision_hashed

theorem orderly_failed : Orderly (failed ++ [.enqueue client second (occasion 2)]) where
  fresh := by decide
  proper := by decide
  noCollision := noCollision_hashed

end Letter

theorem Client.enqueue_verdict_letter :
    (∃ jobType key, ((Letter.client.enqueue Letter.second : QueueProgram Unit Job).run.alone
      (Store.empty.following Letter.underWay) (Letter.occasion 2).ahead).1 =
        .error (.conflict jobType key)) ∧
    ∃ job, ((Letter.client.enqueue Letter.second : QueueProgram Unit Job).run.alone
      (Store.empty.following Letter.failed) (Letter.occasion 2).ahead).1 = .ok job ∧
        job.status = .queued := by
  have valid : ¬Letter.client.Refuses Letter.second := by
    unfold Client.Refuses
    decide
  constructor
  · have verdict := Client.enqueue_verdict Letter.orderly_underWay
    refine (verdict.duplicate valid).mpr ⟨Letter.stored, ?_, by decide, rfl, by decide⟩
    rw [Letter.jobs_underWay]
    exact List.mem_singleton_self _
  · have verdict := Client.enqueue_verdict Letter.orderly_failed
    have nothing : ¬(Store.empty.following Letter.failed).HoldsEqual Letter.second := by
      rintro ⟨job, hjob, going, -⟩
      rw [Letter.jobs_failed, List.mem_singleton] at hjob
      exact going (hjob ▸ rfl)
    obtain ⟨job, answer, status, -⟩ := verdict.accepted valid nothing
    exact ⟨job, answer, status⟩

end JobQueue
