import JobQueue.DeadLetter.Queue
import JobQueue.Proofs.Program.Amid
import JobQueue.Proofs.Store.Records

/-!
# New submissions amid others

A record is submitted again in three calls: it is looked up, a job is put in, and the record is
counted on. Others may make calls between them, and each of the three may fail without effect. There
is no transaction around them, so what happens between the last two cannot take the job back.

* `Spares` and `ChangesOnce`: which part of the store some deeds change.
* `DeadLetterQueue.AllOrNothing` and `DeadLetterQueue.Resubmitted`: what the three calls would do if
  they were one, and what they do. `DeadLetterQueue.record_vanishes` tells them apart.
* `DeadLetterQueue.retry_resubmits`: every new submission ends so.
-/

namespace JobQueue

variable {handler β : Type} {s : Store} {deeds : List Deed}

/-! ## What deeds change -/

/-- None of these deeds changes this part of the store. -/
def Spares (part : Store → β) (deeds : List Deed) : Prop :=
  ∀ d ∈ deeds, part d.after = part d.before

/-- Just one of these deeds changes this part of the store, and it changes it so. -/
def ChangesOnce (part : Store → β) (change : β → β → Prop) (deeds : List Deed) : Prop :=
  ∃ first d last, deeds = first ++ d :: last ∧ Spares part first ∧
    change (part d.before) (part d.after) ∧ Spares part last

theorem ChangesOnce.imp {part : Store → β} {change change' : β → β → Prop}
    (h : ChangesOnce part change deeds) (weaker : ∀ old new, change old new → change' old new) :
    ChangesOnce part change' deeds := by
  obtain ⟨first, d, last, split, before, changed, after⟩ := h
  exact ⟨first, d, last, split, before, weaker _ _ changed, after⟩

@[simp] theorem spares_nil (part : Store → β) : Spares part [] := fun _ hd => by cases hd

@[simp] theorem spares_cons {part : Store → β} {d : Deed} :
    Spares part (d :: deeds) ↔ part d.after = part d.before ∧ Spares part deeds :=
  List.forall_mem_cons

@[simp] theorem spares_append {part : Store → β} {others : List Deed} :
    Spares part (deeds ++ others) ↔ Spares part deeds ∧ Spares part others :=
  List.forall_mem_append

/-- Deeds that leave the store alone spare every part of it. -/
theorem spares_of_idle (part : Store → β) (idle : ∀ d ∈ deeds, d.after = d.before) :
    Spares part deeds := fun d hd => congrArg part (idle d hd)

/-! ## The store -/

namespace Store

/-- A job that is put in under a new identifier is put behind the others, and nothing else is
done. -/
theorem insert_new {s : Store} {job : Job} (inserted : (s.insert job).1 = .ok job)
    (absent : s.find? job.id = none) :
    (s.insert job).2.jobs = s.jobs ++ [job] ∧ (s.insert job).2.deadLetters = s.deadLetters := by
  rcases s.insert_cases job with ⟨e, refused⟩ | ⟨keys, accepted⟩
  · rw [refused] at inserted
    cases inserted
  · rw [accepted]
    exact ⟨putJob_of_absent (find?_eq_none_iff.mp absent), rfl⟩

/-- A record is counted on, if it is there. -/
theorem incrementRetryCount_cases (s : Store) (id : Uuid) (now : Instant) :
    (s.findDeadLetter? id = none ∧ s.incrementRetryCount id now = (none, s)) ∨
    ∃ record, s.findDeadLetter? id = some record ∧
      (s.incrementRetryCount id now).1 = some (retriedRecord record now) ∧
      (s.incrementRetryCount id now).2.findDeadLetter? id = some (retriedRecord record now) ∧
      (s.incrementRetryCount id now).2.jobs = s.jobs := by
  cases found : s.findDeadLetter? id with
  | none => exact .inl ⟨rfl, by rw [incrementRetryCount, found]⟩
  | some record =>
    rw [incrementRetryCount_of_found found]
    refine .inr ⟨record, rfl, rfl, ?_, rfl⟩
    exact (find?_putDeadLetter _ _ _).trans (if_pos (id_of_findDeadLetter? found))

end Store

/-! ## A submission -/

namespace Client

/-- A job is put in by one call, or nothing is done. -/
theorem insert_mayEnd {job : Job} {result : Except QueueError Job}
    (h : (insert job : QueueProgram handler Job).run.MayEnd s deeds result) :
    (∃ e, result = .error e ∧ ∀ d ∈ deeds, d.after = d.before) ∨
    ∃ before, deeds = [.made before (.insert job)] ∧ (before.insert job).1 = .ok job ∧
      result = .ok job := by
  -- what follows a refusal is told, and thrown
  have refused {e : QueueError} {middle : Store} {rest : List Deed}
      (h : (if e.isConflict then do
          QueueProgram.tell .warn "rejected duplicate job" [("error", .text e.message)]
          throw e
        else throw e : QueueProgram handler Job).run.MayEnd middle rest result) :
      rest = [] ∧ result = .error e := by
    split at h
    · obtain ⟨last, told⟩ := QueueProgram.mayEnd_tell_bind h
      exact Program.MayEnd.of_done told
    · exact Program.MayEnd.of_done h
  obtain ⟨before, rest, middle, ⟨rfl, made⟩ | ⟨e, rfl, failed⟩⟩ :=
    QueueProgram.mayEnd_attempt_bind h
  · rcases before.insert_cases job with ⟨e, hinsert⟩ | ⟨keys, hinsert⟩
    · have answer : (before.perform (.insert job)).1 = .error e := congrArg Prod.fst hinsert
      rw [answer] at made
      obtain ⟨rfl, rfl⟩ := refused made
      refine .inl ⟨e, rfl, ?_⟩
      rintro d hd
      rw [List.mem_singleton.mp hd]
      exact congrArg Prod.snd hinsert
    · have answer : (before.perform (.insert job)).1 = .ok job := congrArg Prod.fst hinsert
      rw [answer] at made
      obtain ⟨rfl, rfl⟩ := Program.MayEnd.of_done made
      exact .inr ⟨before, rfl, answer, rfl⟩
  · obtain ⟨rfl, rfl⟩ := refused failed
    refine .inl ⟨e, rfl, ?_⟩
    rintro d hd
    rw [List.mem_singleton.mp hd]
    rfl

/-- A submission ends in an error and does nothing, or puts one job in. -/
theorem enqueue_mayEnd {c : Client} {r : NewJob} {result : Except QueueError Job}
    (h : (c.enqueue r : QueueProgram handler Job).run.MayEnd s deeds result) :
    (∃ e, result = .error e ∧ ∀ d ∈ deeds, d.after = d.before) ∨
    ∃ job before, deeds = [.made before (.insert job)] ∧ (before.insert job).1 = .ok job ∧
      result = .ok job := by
  obtain ⟨start, inside⟩ := Program.MayEnd.of_within h
  cases hcheck : c.check r with
  | error e =>
    rw [hcheck] at inside
    obtain ⟨rfl, rfl⟩ := Program.MayEnd.of_done inside
    exact .inl ⟨e, rfl, fun d hd => absurd hd List.not_mem_nil⟩
  | ok admitted =>
    rw [hcheck] at inside
    obtain ⟨now, _, inside⟩ := QueueProgram.mayEnd_now_bind inside
    obtain ⟨id, _, inside⟩ := QueueProgram.mayEnd_freshId_bind inside
    rcases QueueProgram.mayEnd_bind inside with ⟨e, rfl, put⟩ | ⟨job, _, _, _, rfl, put, told⟩
    · rcases insert_mayEnd put with ⟨e, same, idle⟩ | ⟨before, -, -, bad⟩
      · exact .inl ⟨e, same, idle⟩
      · cases bad
    · obtain ⟨_, _, told⟩ := QueueProgram.mayEnd_quiet_bind (Program.quiet_reportEnqueued job) told
      obtain ⟨rfl, rfl⟩ := Program.MayEnd.of_done told
      rcases insert_mayEnd put with ⟨e, bad, -⟩ | ⟨before, rfl, answer, same⟩
      · cases bad
      · exact .inr ⟨_, before, rfl, answer, same⟩

end Client

/-! ## A new submission -/

namespace DeadLetterQueue

variable {q : DeadLetterQueue} {target : Uuid}

/-- Looking a record up does nothing. -/
theorem get_mayEnd {result : Except QueueError DeadLetter}
    (h : (get target : QueueProgram handler DeadLetter).run.MayEnd s deeds result) :
    ∀ d ∈ deeds, d.after = d.before := by
  rcases QueueProgram.mayEnd_call_bind h with
    ⟨before, e, -, rfl | ⟨rfl, -⟩⟩ | ⟨before, rest, middle, answer, rfl, -, goesOn⟩
  · simp
  · simp [Store.perform]
  · have nothing : rest = [] := by
      cases answer with
      | none => exact (Program.MayEnd.of_done goesOn).1
      | some record => exact (Program.MayEnd.of_done goesOn).1
    simp [nothing, Store.perform]

/-- How the last of the three calls, which counts on the record, ends a new submission. -/
inductive Counting (target : Uuid) (job : Uuid) : Deed → Except QueueError Resubmission → Prop
  /-- The record is there. -/
  | counted {s : Store} {now : Instant} {record : DeadLetter}
      (found : s.findDeadLetter? target = some record) :
      Counting target job (.made s (.incrementRetryCount target now))
        (.ok ⟨Store.retriedRecord record now, job⟩)
  /-- The record is gone. -/
  | gone {s : Store} {now : Instant} (absent : s.findDeadLetter? target = none) :
      Counting target job (.made s (.incrementRetryCount target now))
        (.error (.deadLetterNotFound target))
  /-- The call fails. -/
  | failed {s : Store} {now : Instant} (e : QueueError) :
      Counting target job (.failed s (.incrementRetryCount target now) e) (.error e)

/-- Counting on a record leaves the jobs alone. -/
theorem Counting.jobs_eq {job : Uuid} {d : Deed} {result : Except QueueError Resubmission}
    (h : Counting target job d result) : d.after.jobs = d.before.jobs := by
  cases h with
  | failed e => rfl
  | @counted s now record found | @gone s now absent =>
    show (s.incrementRetryCount target now).2.jobs = s.jobs
    rcases s.incrementRetryCount_cases target now with ⟨-, same⟩ | ⟨-, -, -, -, same⟩
    · rw [same]
    · exact same

/-- A new submission ends in an error and does nothing, or puts one job in and goes on to count. -/
theorem retry_mayEnd {result : Except QueueError Resubmission}
    (h : (q.retry target : QueueProgram handler Resubmission).run.MayEnd s deeds result) :
    (∃ e, result = .error e ∧ ∀ d ∈ deeds, d.after = d.before) ∨
    ∃ first before job last, deeds = first ++ [.made before (.insert job), last] ∧
      (∀ d ∈ first, d.after = d.before) ∧ (before.insert job).1 = .ok job ∧
      Counting target job.id last result := by
  obtain ⟨start, inside⟩ := Program.MayEnd.of_within h
  rcases QueueProgram.mayEnd_bind inside with
    ⟨e, rfl, looked⟩ | ⟨record, first, _, _, rfl, looked, inside⟩
  · exact .inl ⟨e, rfl, get_mayEnd looked⟩
  · have idle := get_mayEnd looked
    rcases QueueProgram.mayEnd_bind inside with
      ⟨refusal, rfl, put⟩ | ⟨job, _, _, _, rfl, put, behind⟩
    · rcases Client.enqueue_mayEnd put with ⟨e, -, idle'⟩ | ⟨_, _, -, -, bad⟩
      · refine .inl ⟨refusal, rfl, fun d hd => ?_⟩
        exact (List.mem_append.mp hd).elim (idle d) (idle' d)
      · cases bad
    · -- the job is in, and what follows is the last call
      rcases Client.enqueue_mayEnd put with ⟨e, bad, -⟩ | ⟨_, before, rfl, inserted, same⟩
      · cases bad
      · cases same
        obtain ⟨now, _, counting⟩ := QueueProgram.mayEnd_now_bind behind
        refine .inr ⟨first, before, job, ?_⟩
        rcases QueueProgram.mayEnd_call_bind counting with
          ⟨_, e, rfl, rfl | ⟨-, bad⟩⟩ | ⟨found, _, _, answer, rfl, counted, ending⟩
        · exact ⟨_, rfl, idle, inserted, .failed e⟩
        · cases bad
        · have counted : (found.incrementRetryCount target now).1 = answer := Except.ok.inj counted
          rcases found.incrementRetryCount_cases target now with
            ⟨absent, answered⟩ | ⟨record, there, answered, -, -⟩
          · rw [answered] at counted
            rw [← counted] at ending
            obtain ⟨rfl, rfl⟩ := Program.MayEnd.of_done ending
            exact ⟨_, rfl, idle, inserted, .gone absent⟩
          · rw [answered] at counted
            rw [← counted] at ending
            obtain ⟨_, ending⟩ := QueueProgram.mayEnd_tell_bind ending
            obtain ⟨rfl, rfl⟩ := Program.MayEnd.of_done ending
            exact ⟨_, rfl, idle, inserted, .counted there⟩

/-! ## All or nothing -/

/-- A new submission that is all or nothing: if it ends in an error, no job was put in and the
record is as it was; else just one job was put in, and the record was counted on once. -/
def AllOrNothing (target : Uuid) (deeds : List Deed) : Except QueueError Resubmission → Prop
  | .error _ => Spares Store.jobs deeds ∧ Spares (fun s => s.findDeadLetter? target) deeds
  | .ok r =>
    ChangesOnce Store.jobs (fun old new => ∃ job, job.id = r.newJob ∧ new = old ++ [job]) deeds ∧
      ChangesOnce (fun s => s.findDeadLetter? target)
        (fun old new => ∃ record, old = some record ∧ new = some r.record ∧
          r.record.retryCount = record.retryCount + 1) deeds

/-- What a new submission does: if it ends in an error, the record is as it was, and no job was put
in unless the error came of the last call only, which counts on the record: that call failed, or the
record was gone by then. In that case, as in the end without an error, just one job was put in; and
without an error the record was counted on once. -/
def Resubmitted (target : Uuid) (deeds : List Deed) : Except QueueError Resubmission → Prop
  | .ok r => AllOrNothing target deeds (.ok r)
  | .error e =>
    Spares (fun s => s.findDeadLetter? target) deeds ∧
      (Spares Store.jobs deeds ∨
        (ChangesOnce Store.jobs (fun old new => ∃ job, new = old ++ [job]) deeds ∧
          ∃ others s now,
            deeds = others ++ [.failed s (.incrementRetryCount target now) e] ∨
              deeds = others ++ [.made s (.incrementRetryCount target now)] ∧
                s.findDeadLetter? target = none ∧ e = .deadLetterNotFound target))

/-- **What a new submission does** amid any calls of others, and with any calls of its own failing
without effect, if the identifier that it draws is new. -/
theorem retry_resubmits {result : Except QueueError Resubmission}
    (h : (q.retry target : QueueProgram handler Resubmission).run.MayEnd s deeds result)
    (fresh : ∀ d ∈ deeds, ∀ job, d.call = .insert job → d.before.find? job.id = none) :
    Resubmitted target deeds result := by
  rcases retry_mayEnd h with
    ⟨e, rfl, idle⟩ | ⟨first, before, job, last, rfl, idle, inserted, counting⟩
  · exact ⟨spares_of_idle _ idle, .inl (spares_of_idle _ idle)⟩
  · have absent : before.find? job.id = none :=
      fresh (.made before (.insert job)) (by simp) job rfl
    obtain ⟨jobs, records⟩ := Store.insert_new inserted absent
    have putIn : ChangesOnce Store.jobs (fun old new => new = old ++ [job])
        (first ++ [.made before (.insert job), last]) :=
      ⟨first, _, [last], rfl, spares_of_idle _ idle, jobs, by simpa using counting.jobs_eq⟩
    have record : (before.insert job).2.findDeadLetter? target = before.findDeadLetter? target := by
      rw [Store.findDeadLetter?, records, Store.findDeadLetter?]
    have spared : Spares (fun s => s.findDeadLetter? target)
        (first ++ [.made before (.insert job)]) :=
      spares_append.mpr ⟨spares_of_idle _ idle, spares_cons.mpr ⟨record, spares_nil _⟩⟩
    rw [List.append_cons] at putIn ⊢
    cases counting with
    | @counted s now found there =>
      obtain ⟨_, same, answered, after, -⟩ : ∃ record, s.findDeadLetter? target = some record ∧ _ :=
        (s.incrementRetryCount_cases target now).resolve_left fun gone => by simp [gone.1] at there
      rw [there, Option.some.injEq] at same
      refine ⟨putIn.imp fun old new h => ⟨job, rfl, h⟩, _, _, [], rfl, spared, ?_, spares_nil _⟩
      exact ⟨found, there, same ▸ after, rfl⟩
    | @gone s now gone =>
      refine ⟨spares_append.mpr ⟨spared, ?_⟩, .inr ⟨putIn.imp fun old new h => ⟨job, h⟩,
        _, s, now, .inr ⟨rfl, gone, rfl⟩⟩⟩
      have idle : (s.incrementRetryCount target now).2 = s := by
        rw [Store.incrementRetryCount, gone]
      exact spares_of_idle _ (List.forall_mem_singleton.mpr idle)
    | @failed s now e =>
      refine ⟨spares_append.mpr ⟨spared, ?_⟩, .inr ⟨putIn.imp fun old new h => ⟨job, h⟩,
        _, s, now, .inl rfl⟩⟩
      exact spares_of_idle _ (List.forall_mem_singleton.mpr rfl)

/-! ### A letter in the archive

The record of a letter that failed is submitted again, once undisturbed, and once while somebody
clears the archive.
-/

namespace Archive

def queue : DeadLetterQueue := ⟨⟨.standard, false⟩⟩

/-- The letter that failed. -/
def letter : Job :=
  Store.failed (Store.claimed (Job.queued (.ofNat 1) "mail" (.object []) .epoch) "w" .epoch)
    (.handlerError "out of paper") .epoch

/-- The letter and its record. -/
def store : Store := ⟨[letter], [], [.ofJob (.ofNat 7) letter .epoch]⟩

/-- The letter that is sent instead. -/
def second : Job := queue.client.stamp ⟨"mail", .object [], 3, .normal⟩ (.ofNat 2) .epoch

/-- Both letters and the record. -/
def sent : Store := (store.insert second).2

/-- Both letters, with the archive cleared. -/
def cleared : Store := (sent.deleteDeadLetter (.ofNat 7)).2

/-- The calls that look the record up and put the second letter in. -/
def begun : List Deed := [.made store (.findDeadLetter (.ofNat 7)), .made store (.insert second)]

theorem undisturbed : (queue.retry (.ofNat 7) : QueueProgram Unit Resubmission).run.MayEnd store
    (begun ++ [.made sent (.incrementRetryCount (.ofNat 7) .epoch)])
    (.ok ⟨Store.retriedRecord (.ofJob (.ofNat 7) letter .epoch) .epoch, .ofNat 2⟩) := by
  refine .answered rfl () (.made ?_)
  refine .answered rfl () (.answered rfl .epoch (.answered rfl (.ofNat 2) (.made ?_)))
  refine .answered rfl () (.answered rfl () (.answered rfl () ?_))
  refine .answered rfl .epoch (.made (.answered rfl () (.answered rfl () ?_)))
  exact .done _ _

theorem disturbed : (queue.retry (.ofNat 7) : QueueProgram Unit Resubmission).run.MayEnd store
    (begun ++ [.made cleared (.incrementRetryCount (.ofNat 7) .epoch)])
    (.error (.deadLetterNotFound (.ofNat 7))) := by
  refine .answered rfl () (.made ?_)
  refine .answered rfl () (.answered rfl .epoch (.answered rfl (.ofNat 2) (.made ?_)))
  refine .answered rfl () (.answered rfl () (.answered rfl () ?_))
  -- this is where the archive is cleared
  refine .others (.deleteDeadLetter (.ofNat 7)) ?_
  refine .answered rfl .epoch (.made (.answered rfl () ?_))
  exact .done _ _

/-- The second letter has an identifier of its own. -/
theorem fresh (s : Store) :
    ∀ d ∈ begun ++ [.made s (.incrementRetryCount (.ofNat 7) .epoch)],
      ∀ job, d.call = .insert job → d.before.find? job.id = none := by
  intro d hd job hjob
  simp only [begun, List.cons_append, List.nil_append, List.mem_cons, List.not_mem_nil,
    or_false] at hd
  rcases hd with rfl | rfl | rfl
  · cases hjob
  · cases hjob
    rfl
  · cases hjob

end Archive

/-- The record is counted on once when nobody disturbs. -/
theorem retry_resubmits_undisturbed :
    ∃ deeds record, Resubmitted (.ofNat 7) deeds (.ok ⟨record, .ofNat 2⟩) ∧ record.retryCount = 1 :=
  ⟨_, _, retry_resubmits Archive.undisturbed (Archive.fresh _), rfl⟩

/-- A new submission is **not all or nothing**: when the record is deleted between the last two
calls, it ends in an error, and the job that it put in stays. -/
theorem record_vanishes :
    ∃ deeds e, (Archive.queue.retry (.ofNat 7) : QueueProgram Unit Resubmission).run.MayEnd
        Archive.store deeds (.error e) ∧
      (∀ d ∈ deeds, ∀ job, d.call = .insert job → d.before.find? job.id = none) ∧
      ¬AllOrNothing (.ofNat 7) deeds (.error e) := by
  refine ⟨_, _, Archive.disturbed, Archive.fresh _, ?_⟩
  rintro ⟨jobs, -⟩
  have same : Archive.sent.jobs = Archive.store.jobs :=
    jobs (.made Archive.store (.insert Archive.second)) (by simp [Archive.begun])
  have fewer : (2 : Nat) = 1 := congrArg List.length same
  cases fewer

end DeadLetterQueue

end JobQueue
