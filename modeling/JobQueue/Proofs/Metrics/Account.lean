import JobQueue.Proofs.Metrics.Turnover

/-!
# Programs that settle their accounts

What a program does to the store is to be counted, and the program counts it itself, a little later.
In between, others go on, and any call of the program may fail without effect. Its account says what
it has still to count, in the order in which that is due, and which job it claimed last.

* `Account`: what is due, and how calls and measurements change that.
* `Program.Settles`: a program counts only what is due next, whatever it is answered, and ends with
  an account as it should be.
* `Program.settles_bind` and the lemmas behind it take a program apart at its steps.
* `Program.IsAside`: a program that leaves accounts alone.
-/

namespace JobQueue

variable {handler α β : Type}

/-! ## Accounts -/

/-- What an actor has still to count, and the job that it claimed last. -/
structure Account where
  claimed : Option Job
  dues : List Measurement

namespace Account

/-- Nothing was done yet. -/
def opening : Account := ⟨none, []⟩

/-- The store has the job that was claimed last, under its type. -/
def Fits (a : Account) (s : Store) : Prop :=
  ∀ job, a.claimed = some job → ∃ doc, s.find? job.id = some doc ∧ doc.jobType = job.jobType

theorem Fits.typeOf_eq {a : Account} {s : Store} {job : Job} (fits : a.Fits s)
    (treating : a.claimed = some job) : s.typeOf job.id = job.jobType := by
  obtain ⟨doc, found, type⟩ := fits job treating
  rw [Store.typeOf_of_find? found, type]

/-- The account after a call that a store answered. -/
def called (a : Account) (s : Store) (c : Call) : Account where
  claimed := (c.claimed? (s.perform c).1).or a.claimed
  dues := a.dues ++ (Deed.made s c).dues

/-- The account after a measurement. -/
def measured (a : Account) (m : Measurement) : Account :=
  if m.isAside then a else { a with dues := a.dues.tail }

end Account

/-! ## One effect -/

namespace Effect

/-- Whether an effect is in order: jobs are put in to wait, and only what is due next is counted. -/
def InOrder (a : Account) : Effect handler → Prop
  | .call (.insert job) => job.status = .queued
  | .measure m => m.isAside = false → a.dues.head? = some m
  | _ => True

/-- Which accounts an answer may lead to. A call fails without effect, or is answered by a store
that has the job that was claimed last. -/
def Leads (a : Account) : (e : Effect handler) → e.Answer → Account → Prop
  | .call c, answer, b =>
    (∃ e, answer = .error e ∧ b = a) ∨
      ∃ s : Store, a.Fits s ∧ answer = (s.perform c).1 ∧ b = a.called s c
  | .measure m, _, b => b = a.measured m
  | _, _, b => b = a

end Effect

/-! ## Programs -/

namespace Program

/-- The program does everything in order, and ends with an account as `Q` says. -/
def Settles (Q : α → Account → Prop) : Program handler α → Account → Prop
  | .done x, a => Q x a
  | .ask e next, a => e.InOrder a ∧ ∀ answer b, e.Leads a answer b → (next answer).Settles Q b

variable {Q : α → Account → Prop} {R : β → Account → Prop} {a : Account}

theorem Settles.mono {p : Program handler α} {Q' : α → Account → Prop} (h : p.Settles Q a)
    (weaker : ∀ x b, Q x b → Q' x b) : p.Settles Q' a := by
  induction p generalizing a with
  | done x => exact weaker x a h
  | ask e next ih => exact ⟨h.1, fun answer b leads => ih answer (h.2 answer b leads)⟩

/-- Two programs in a row settle an account when the second one does from where the first one ends.
-/
theorem settles_bind {p : Program handler α} {f : α → Program handler β} :
    (p >>= f).Settles R a ↔ p.Settles (fun x b => (f x).Settles R b) a := by
  induction p generalizing a with
  | done x => rfl
  | ask e next ih =>
    exact and_congr_right fun _ => forall_congr' fun answer => forall_congr' fun b =>
      imp_congr_right fun _ => ih answer

theorem settles_map {p : Program handler α} {f : α → β} :
    (f <$> p).Settles R a ↔ p.Settles (fun x b => R (f x) b) a := by
  rw [← bind_pure_comp, settles_bind]
  rfl

/-- A call fails, or is answered by a store. -/
theorem settles_call {c : Call} {Q : Except QueueError c.Answer → Account → Prop}
    (ordered : (Effect.call c : Effect handler).InOrder a) (fails : ∀ e, Q (.error e) a)
    (made : ∀ s : Store, a.Fits s → Q (s.perform c).1 (a.called s c)) :
    (request (.call c) : Program handler _).Settles Q a := by
  refine ⟨ordered, fun answer b leads => ?_⟩
  rcases leads with ⟨e, rfl, rfl⟩ | ⟨s, fits, rfl, rfl⟩
  · exact fails e
  · exact made s fits

/-- What is due next is counted. -/
theorem settles_measure {m : Measurement} {rest : List Measurement} {Q : Unit → Account → Prop}
    (due : a.dues = m :: rest) (counted : m.isAside = false)
    (h : Q () { a with dues := rest }) : (measure m : Program handler Unit).Settles Q a := by
  refine ⟨fun _ => by rw [due]; rfl, ?_⟩
  rintro ⟨⟩ b rfl
  show Q () (a.measured m)
  rw [Account.measured, counted, due]
  exact h

/-! ## Programs that leave accounts alone -/

/-- The program leaves every account alone, whatever it is answered. -/
def IsAside (p : Program handler α) : Prop :=
  ∀ (Q : α → Account → Prop) (a : Account), (∀ x, Q x a) → p.Settles Q a

theorem isAside_done (x : α) : (done x : Program handler α).IsAside := fun _ _ h => h x

theorem IsAside.bind {p : Program handler α} {f : α → Program handler β} (h : p.IsAside)
    (h' : ∀ x, (f x).IsAside) : (p >>= f).IsAside :=
  fun Q a all => settles_bind.mpr (h _ a fun x => h' x Q a all)

/-- A program that leaves accounts alone may stand before any other one. -/
theorem IsAside.settles_bind {p : Program handler α} {f : α → Program handler β} (h : p.IsAside)
    (others : ∀ x, (f x).Settles R a) : (p >>= f).Settles R a :=
  Program.settles_bind.mpr (h _ a others)

/-- Asking for anything but a call or a measurement. -/
theorem isAside_request {e : Effect handler} (ordered : ∀ a, e.InOrder a)
    (still : ∀ a answer b, e.Leads a answer b → b = a) : (request e).IsAside := by
  refine fun Q a all => ⟨ordered a, fun answer b leads => ?_⟩
  rw [still a answer b leads]
  exact all answer

theorem isAside_now : (request .now : Program handler _).IsAside :=
  isAside_request (fun _ => trivial) fun _ _ _ leads => leads

theorem isAside_tell (level : Level) (message : String) (fields : Fields) :
    (tell level message fields : Program handler Unit).IsAside :=
  isAside_request (fun _ => trivial) fun _ _ _ leads => leads

/-- A measurement that no counter of jobs takes up. -/
theorem isAside_measure {m : Measurement} (aside : m.isAside = true) :
    (measure m : Program handler Unit).IsAside := by
  refine isAside_request (fun a counted => ?_) fun a _ b leads => ?_
  · rw [aside] at counted
    cases counted
  · exact leads.trans (by rw [Account.measured, aside]; rfl)

/-- A span leaves every account alone. -/
theorem settles_within {span : Span} {p : Program handler α} :
    (within span p).Settles Q a ↔ p.Settles Q a := by
  have leave (x : α) (b : Account) :
      (request .leave >>= fun _ => pure x : Program handler α).Settles Q b ↔ Q x b :=
    ⟨fun h => h.2 () b rfl, fun h => ⟨trivial, fun _ c leads => leads ▸ h⟩⟩
  have enter (q : Program handler α) :
      (request (.enter span) >>= fun _ => q).Settles Q a ↔ q.Settles Q a :=
    ⟨fun h => h.2 () a rfl, fun h => ⟨trivial, fun _ c leads => leads ▸ h⟩⟩
  rw [within, enter, settles_bind]
  simp only [leave]

theorem IsAside.within {span : Span} {p : Program handler α} (h : p.IsAside) :
    (within span p).IsAside := fun Q a all => settles_within.mpr (h Q a all)

end Program

/-- Whether a call leaves nothing to be counted and hands no job out. -/
def Call.isAside : Call → Bool
  | .find _ | .list _ | .heartbeat _ _ _ | .snapshot _ | .insertDeadLetter _ | .findDeadLetter _
  | .listDeadLetters _ | .incrementRetryCount _ _ | .deleteDeadLetter _
  | .deleteDeadLettersBefore _ | .countDeadLetters => true
  | _ => false

theorem Account.called_of_isAside {c : Call} (aside : c.isAside = true) (a : Account) (s : Store) :
    a.called s c = a := by
  have nothing : (Deed.made s c).dues = [] := by
    cases c <;> first | rfl | cases aside
  have unclaimed : c.claimed? (s.perform c).1 = none := by
    cases c <;> first | rfl | cases aside
  rw [called, nothing, unclaimed, List.append_nil]
  rfl

namespace Program

theorem isAside_call {c : Call} (aside : c.isAside = true) :
    (request (.call c) : Program handler _).IsAside := by
  refine isAside_request (fun a => ?_) fun a answer b leads => ?_
  · cases c <;> trivial
  · rcases leads with ⟨e, -, same⟩ | ⟨s, -, -, same⟩
    · exact same
    · rw [same, Account.called_of_isAside aside]

end Program

/-! ## Programs that may fail -/

namespace QueueProgram

open Program

variable {p : QueueProgram handler α} {a : Account} {Q : Except QueueError α → Account → Prop}
  {R : Except QueueError β → Account → Prop}

/-- The second of two programs runs unless the first one failed. -/
theorem settles_bind {f : α → QueueProgram handler β} :
    (p >>= f).run.Settles R a ↔
      p.run.Settles
        (fun r b => match r with
          | .ok x => (f x).run.Settles R b
          | .error e => R (.error e) b) a := by
  rw [ExceptT.run_bind, Program.settles_bind]
  refine iff_of_eq (congrArg (fun S => Program.Settles S p.run a) ?_)
  funext r b
  cases r <;> rfl

theorem settles_map {f : α → β} :
    (f <$> p).run.Settles R a ↔ p.run.Settles (fun r b => R (f <$> r) b) a := by
  rw [ExceptT.run_map, Program.settles_map]
  rfl

theorem settles_lift {q : Program handler α} :
    (lift q).run.Settles Q a ↔ q.Settles (fun x b => Q (.ok x) b) a := Program.settles_map

theorem settles_within {span : Span} : (within span p).run.Settles Q a ↔ p.run.Settles Q a :=
  Program.settles_within

theorem isAside_bind {f : α → QueueProgram handler β} (h : p.run.IsAside)
    (h' : ∀ x, (f x).run.IsAside) : (p >>= f).run.IsAside := by
  rw [ExceptT.run_bind]
  refine h.bind fun r => ?_
  cases r with
  | ok x => exact h' x
  | error e => exact isAside_done _

/-- A program that leaves accounts alone and does not fail may stand before any other one. -/
theorem settles_lift_bind {q : Program handler α} {f : α → QueueProgram handler β} (h : q.IsAside)
    (others : ∀ x, (f x).run.Settles R a) : (lift q >>= f).run.Settles R a :=
  settles_bind.mpr (settles_lift.mpr (h _ a others))

theorem isAside_lift {q : Program handler α} (h : q.IsAside) : (lift q).run.IsAside :=
  fun _ a all => settles_lift.mpr (h _ a fun x => all (.ok x))

theorem isAside_call {c : Call} (aside : c.isAside = true) :
    (call c : QueueProgram handler _).run.IsAside := Program.isAside_call aside

theorem isAside_now : (now : QueueProgram handler Instant).run.IsAside :=
  isAside_lift Program.isAside_now

theorem isAside_freshId : (freshId : QueueProgram handler Uuid).run.IsAside :=
  isAside_lift (isAside_request (fun _ => trivial) fun _ _ _ leads => leads)

theorem isAside_tell (level : Level) (message : String) (fields : Fields) :
    (tell level message fields : QueueProgram handler Unit).run.IsAside :=
  isAside_lift (Program.isAside_tell level message fields)

theorem isAside_pure (x : α) : (pure x : QueueProgram handler α).run.IsAside := isAside_done _

theorem isAside_throw (e : QueueError) : (throw e : QueueProgram handler α).run.IsAside :=
  isAside_done _

end QueueProgram

end JobQueue
