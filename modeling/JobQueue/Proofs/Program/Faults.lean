import JobQueue.Proofs.Program.Amid
import JobQueue.Proofs.Program.Asking
import JobQueue.Proofs.Store.Documents

/-!
# Programs whose calls may fail

A worker runs its program while no other worker makes calls. Beside it the lock that it asked to
have renewed is renewed, any number of times, and clients make calls of their own. Each call of the
program may fail without effect, and so may each renewal; all else that the program asks for may be
answered anyhow.

* `Post`: the store, and the lock that is renewed beside the worker. `Post.Meanwhile`: what may
  happen at a post before the next effect.
* `Program.Weathers`: what a program may do and end with, and the post that it leaves.
* `Program.Yields`: whatever fails, a program ends as it should. `Program.yields_bind` and the
  lemmas behind it take a program apart at its steps.
* `Program.IsMute`: a program that makes no call and leaves the renewals alone.
-/

namespace JobQueue

variable {handler α β : Type}

/-! ## Posts -/

/-- A store with a worker at it. -/
structure Post where
  store : Store
  /-- The lock that is renewed beside the worker: of which job, and of which owner. -/
  renewing : Option (Uuid × String)

/-- The calls that are no worker's. A job is put in under an identifier that no other one has. -/
def Call.IsClients (s : Store) : Call → Prop
  | .insert job => s.find? job.id = none
  | .find _ | .list _ | .snapshot _ | .findDeadLetter _ | .listDeadLetters _
  | .incrementRetryCount _ _ | .deleteDeadLetter _ | .deleteDeadLettersBefore _
  | .countDeadLetters => True
  | _ => False

namespace Post

/-- What happens at a post before the next effect: the lock is renewed, and clients make calls. A
renewal that fails leaves no trace. -/
inductive Meanwhile : Post → Post → Prop
  | nothing (b : Post) : Meanwhile b b
  | renewal {b c : Post} {job : Uuid} {owner : String} (now : Instant)
      (renewing : b.renewing = some (job, owner))
      (rest : Meanwhile { b with store := (b.store.heartbeat job owner now).2 } c) : Meanwhile b c
  | client {b c : Post} {call : Call} (clients : call.IsClients b.store)
      (rest : Meanwhile { b with store := (b.store.perform call).2 } c) : Meanwhile b c

/-- The post after an effect that is no call. -/
def asked (b : Post) : Effect handler → Post
  | .startRenewal job owner => { b with renewing := some (job, owner) }
  | .stopRenewal => { b with renewing := none }
  | _ => b

/-- The post after a call that the store answered. -/
def called (b : Post) (c : Call) : Post := { b with store := (b.store.perform c).2 }

variable {b c d : Post}

theorem Meanwhile.trans (h : b.Meanwhile c) (h' : c.Meanwhile d) : b.Meanwhile d := by
  induction h with
  | nothing => exact h'
  | renewal now renewing rest ih => exact .renewal now renewing (ih h')
  | client clients rest ih => exact .client clients (ih h')

/-- Nobody but the worker has a lock renewed, or no longer renewed. -/
theorem Meanwhile.renewing_eq (h : b.Meanwhile c) : c.renewing = b.renewing := by
  induction h with
  | nothing => rfl
  | renewal now renewing rest ih => exact ih
  | client clients rest ih => exact ih

end Post

namespace Store

variable {s : Store} {id : Uuid} {doc : Job} {c : Call}

/-- Clients leave every document alone. -/
theorem find?_of_isClients (clients : c.IsClients s) (found : s.find? id = some doc) :
    (s.perform c).2.find? id = some doc := by
  cases c with
  | insert job =>
    have absent : s.find? job.id = none := clients
    have other : job.id ≠ id := by
      rintro rfl
      rw [absent] at found
      cases found
    show (s.insert job).2.find? id = some doc
    rcases s.insert_cases job with ⟨e, refused⟩ | ⟨keys, accepted⟩
    · rw [refused]
      exact found
    · rw [accepted, find?_put, if_neg other]
      exact found
  | incrementRetryCount target now =>
    show (s.incrementRetryCount target now).2.find? id = some doc
    unfold incrementRetryCount
    split <;> exact found
  | find | list | snapshot | findDeadLetter | listDeadLetters | deleteDeadLetter
  | deleteDeadLettersBefore | countDeadLetters => exact found
  | claimNext | heartbeat | markSucceeded | markRetry | markFailed | releaseStuck
  | insertDeadLetter => cases clients

end Store

/-- While no lock is renewed, the documents stay as they are. -/
theorem Post.Meanwhile.find?_eq {b c : Post} {id : Uuid} {doc : Job} (h : b.Meanwhile c)
    (still : b.renewing = none) (found : b.store.find? id = some doc) :
    c.store.find? id = some doc := by
  induction h with
  | nothing => exact found
  | renewal now renewing rest ih =>
    rw [still] at renewing
    cases renewing
  | client clients rest ih => exact ih still (Store.find?_of_isClients clients found)

/-! ## Deeds -/

namespace Deed

variable {d : Deed} {c : Call}

/-- The deed is this call, which the store answered or which failed. -/
def Of (d : Deed) (c : Call) : Prop := d = .made d.before c ∨ ∃ e, d = .failed d.before c e

/-- Whether the call failed. -/
def isFailed (d : Deed) : Bool :=
  match d.answer with
  | .ok _ => false
  | .error _ => true

theorem of_made (s : Store) (c : Call) : (made s c).Of c := .inl rfl

theorem of_failed (s : Store) (c : Call) (e : QueueError) : (failed s c e).Of c := .inr ⟨e, rfl⟩

@[simp] theorem isFailed_failed (s : Store) (c : Call) (e : QueueError) :
    (failed s c e).isFailed = true := rfl

end Deed

/-! ## Programs -/

namespace Program

/-- From a post, whatever fails, a program may do these deeds, end with this, and leave the post so.
-/
inductive Weathers : Program handler α → Post → List Deed → α → Post → Prop
  | done (a : α) (b : Post) : Weathers (.done a) b [] a b
  /-- The store answers a call. -/
  | made {c : Call} {next : Except QueueError c.Answer → Program handler α} {b m b' : Post}
      {deeds : List Deed} {a : α} (meanwhile : b.Meanwhile m)
      (rest : Weathers (next (m.store.perform c).1) (m.called c) deeds a b') :
      Weathers (.ask (.call c) next) b (.made m.store c :: deeds) a b'
  /-- A call fails without effect. -/
  | failed {c : Call} {next : Except QueueError c.Answer → Program handler α} {b m b' : Post}
      {deeds : List Deed} {a : α} (meanwhile : b.Meanwhile m) (e : QueueError)
      (rest : Weathers (next (.error e)) m deeds a b') :
      Weathers (.ask (.call c) next) b (.failed m.store c e :: deeds) a b'
  /-- Something else is answered. -/
  | answered {e : Effect handler} {next : e.Answer → Program handler α} {b m b' : Post}
      {deeds : List Deed} {a : α} (meanwhile : b.Meanwhile m) (silent : e.isCall = false)
      (answer : e.Answer) (rest : Weathers (next answer) (m.asked e) deeds a b') :
      Weathers (.ask e next) b deeds a b'

/-- From a post, whatever fails, a program ends as `Q` says of its end, its deeds, and the post
then. -/
def Yields (p : Program handler α) (b : Post) (Q : α → List Deed → Post → Prop) : Prop :=
  ∀ ⦃deeds a b'⦄, p.Weathers b deeds a b' → Q a deeds b'

variable {b : Post}

theorem Yields.mono {p : Program handler α} {Q Q' : α → List Deed → Post → Prop} (h : p.Yields b Q)
    (weaker : ∀ a deeds c, Q a deeds c → Q' a deeds c) : p.Yields b Q' :=
  fun _ _ _ run => weaker _ _ _ (h run)

theorem yields_done {a : α} {Q : α → List Deed → Post → Prop} (h : Q a [] b) :
    (done a : Program handler α).Yields b Q := by
  intro deeds a' b' run
  cases run
  exact h

/-- The deeds of two programs in a row are those of the first one and then those of the second. -/
theorem Weathers.of_bind {p : Program handler α} {f : α → Program handler β} {deeds : List Deed}
    {r : β} {b' : Post} (h : (p >>= f).Weathers b deeds r b') :
    ∃ a first rest m, deeds = first ++ rest ∧ p.Weathers b first a m ∧
      (f a).Weathers m rest r b' := by
  induction p generalizing b deeds with
  | done a => exact ⟨a, [], deeds, b, rfl, .done a b, h⟩
  | ask e next ih =>
    generalize hq : (ask e next >>= f) = q at h
    cases h with
    | done => cases hq
    | made meanwhile run =>
      cases hq
      obtain ⟨a, first, rest, m, rfl, h, h'⟩ := ih _ run
      exact ⟨a, _ :: first, rest, m, rfl, .made meanwhile h, h'⟩
    | failed meanwhile e run =>
      cases hq
      obtain ⟨a, first, rest, m, rfl, h, h'⟩ := ih _ run
      exact ⟨a, _ :: first, rest, m, rfl, .failed meanwhile e h, h'⟩
    | answered meanwhile silent answer run =>
      cases hq
      obtain ⟨a, first, rest, m, rfl, h, h'⟩ := ih _ run
      exact ⟨a, first, rest, m, rfl, .answered meanwhile silent answer h, h'⟩

theorem yields_bind {p : Program handler α} {f : α → Program handler β}
    {Q : β → List Deed → Post → Prop}
    (h : p.Yields b fun a first c => (f a).Yields c fun r rest d => Q r (first ++ rest) d) :
    (p >>= f).Yields b Q := by
  intro deeds r b' run
  obtain ⟨a, first, rest, m, rfl, run, run'⟩ := run.of_bind
  exact h run run'

/-- A call is answered by the store, or fails. -/
theorem yields_call {c : Call} {Q : Except QueueError c.Answer → List Deed → Post → Prop}
    (made : ∀ m, b.Meanwhile m → Q (m.store.perform c).1 [.made m.store c] (m.called c))
    (failed : ∀ m e, b.Meanwhile m → Q (.error e) [.failed m.store c e] m) :
    (request (.call c) : Program handler _).Yields b Q := by
  intro deeds r b' run
  generalize hq : (request (.call c) : Program handler _) = q at run
  cases run with
  | done => cases hq
  | made meanwhile rest =>
    cases hq
    cases rest
    exact made _ meanwhile
  | failed meanwhile e rest =>
    cases hq
    cases rest
    exact failed _ e meanwhile
  | answered _ silent =>
    cases hq
    cases silent

/-- Anything else is answered anyhow. -/
theorem yields_request {e : Effect handler} {Q : e.Answer → List Deed → Post → Prop}
    (silent : e.isCall = false) (h : ∀ m answer, b.Meanwhile m → Q answer [] (m.asked e)) :
    (request e).Yields b Q := by
  intro deeds r b' run
  generalize hq : (request e : Program handler _) = q at run
  cases run with
  | done => cases hq
  | made | failed =>
    cases hq
    cases silent
  | answered meanwhile _ _ rest =>
    cases hq
    cases rest
    exact h _ _ meanwhile

end Program

/-! ## Programs that make no call -/

/-- Whether an effect is no call and leaves the renewals alone. -/
def Effect.isMute : Effect handler → Bool
  | .call _ | .startRenewal _ _ | .stopRenewal => false
  | _ => true

namespace Program

/-- The program makes no call and leaves the renewals alone, whatever it is answered. -/
abbrev IsMute (p : Program handler α) : Prop := p.AsksOnly fun e => e.isMute = true

variable {b : Post}

theorem isMute_request {e : Effect handler} (mute : e.isMute = true) : (request e).IsMute :=
  asksOnly_request mute

theorem isMute_tell (level : Level) (message : String) (fields : Fields) :
    (tell level message fields : Program handler Unit).IsMute := isMute_request rfl

theorem isMute_measure (m : Measurement) : (measure m : Program handler Unit).IsMute :=
  isMute_request rfl

theorem AsksOnly.yields {p : Program handler α} (mute : p.IsMute) (b : Post) :
    p.Yields b fun _ deeds c => deeds = [] ∧ b.Meanwhile c := by
  induction p generalizing b with
  | done a => exact yields_done ⟨rfl, .nothing b⟩
  | ask e next ih =>
    have silent : e.isCall = false := by
      cases e <;> first | rfl | cases mute.1
    have still (m : Post) : m.asked e = m := by
      cases e <;> first | rfl | cases mute.1
    refine yields_bind (p := request e) (yields_request silent fun m answer meanwhile => ?_)
    refine (ih answer (mute.2 answer) _).mono fun _ deeds c ⟨idle, later⟩ => ⟨idle, ?_⟩
    rw [still] at later
    exact meanwhile.trans later

/-- A mute program may stand before any other one. -/
theorem AsksOnly.yields_bind {p : Program handler α} {f : α → Program handler β}
    {Q : β → List Deed → Post → Prop} (mute : p.IsMute)
    (others : ∀ a c, b.Meanwhile c → (f a).Yields c Q) : (p >>= f).Yields b Q := by
  refine Program.yields_bind ((mute.yields b).mono ?_)
  rintro a _ c ⟨rfl, meanwhile⟩
  exact others a c meanwhile

/-- A span makes no call. -/
theorem yields_within {span : Span} {p : Program handler α} {Q : α → List Deed → Post → Prop}
    (lasts : ∀ a deeds c d, Q a deeds c → c.Meanwhile d → Q a deeds d)
    (h : ∀ c, b.Meanwhile c → p.Yields c Q) : (within span p).Yields b Q := by
  have entered : (request (.enter span) : Program handler Unit).IsMute := isMute_request rfl
  have left : (request .leave : Program handler Unit).IsMute := isMute_request rfl
  refine entered.yields_bind fun _ c meanwhile => yields_bind ((h c meanwhile).mono ?_)
  intro a first d holds
  refine left.yields_bind fun _ d' later => yields_done ?_
  rw [List.append_nil]
  exact lasts a first d d' holds later

end Program

/-! ## Programs that may fail -/

namespace QueueProgram

open Program

variable {b : Post} {Q : Except QueueError β → List Deed → Post → Prop}

/-- The second of two programs runs unless the first one ended in an error. -/
theorem yields_bind {p : QueueProgram handler α} {f : α → QueueProgram handler β}
    (h : p.run.Yields b fun r first c =>
      match r with
      | .ok a => (f a).run.Yields c fun r rest d => Q r (first ++ rest) d
      | .error e => Q (.error e) first c) : (p >>= f).run.Yields b Q := by
  rw [ExceptT.run_bind]
  refine Program.yields_bind (h.mono fun r first c holds => ?_)
  cases r with
  | ok a => exact holds
  | error e => exact yields_done (by rwa [List.append_nil])

/-- The second of two programs runs in any case if the first one does not fail. -/
theorem yields_lift_bind {p : Program handler α} {f : α → QueueProgram handler β}
    (h : p.Yields b fun a first c => (f a).run.Yields c fun r rest d => Q r (first ++ rest) d) :
    (lift p >>= f).run.Yields b Q := by
  rw [ExceptT.run_bind, lift, ExceptT.run_lift, map_eq_pure_bind, bind_assoc]
  exact Program.yields_bind h

/-- A mute program that does not fail may stand before any other one. -/
theorem yields_mute_bind {p : Program handler α} {f : α → QueueProgram handler β} (mute : p.IsMute)
    (others : ∀ a c, b.Meanwhile c → (f a).run.Yields c Q) : (lift p >>= f).run.Yields b Q := by
  refine yields_lift_bind ((mute.yields b).mono ?_)
  rintro a _ c ⟨rfl, meanwhile⟩
  exact others a c meanwhile

theorem yields_now_bind {f : Instant → QueueProgram handler β}
    (others : ∀ time c, b.Meanwhile c → (f time).run.Yields c Q) : (now >>= f).run.Yields b Q :=
  yields_mute_bind (isMute_request rfl) others

theorem yields_tell_bind {level : Level} {message : String} {fields : Fields}
    {f : Unit → QueueProgram handler β} (others : ∀ c, b.Meanwhile c → (f ()).run.Yields c Q) :
    (tell level message fields >>= f).run.Yields b Q :=
  yields_mute_bind (isMute_tell level message fields) fun _ => others

end QueueProgram

end JobQueue
