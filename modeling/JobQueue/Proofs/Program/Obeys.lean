import JobQueue.Proofs.Program.Phase

/-!
# Programs that obey rules

A program obeys rules when it makes no call that its phase does not permit, whatever it is answered
on the way. The answers of a store are those that the store in memory can give, in any state, since
other actors may have changed it between any two calls.

* `Program.Obeys` is the notion, with what is to hold of the end of the program and of its phase
  then. It is said by recursion on the program, so that it can be carried from one step of a run to
  the next.
* `Program.obeys_bind` and the lemmas behind it take a program apart at its steps.
-/

namespace JobQueue

variable {handler α β : Type} {permits : Phase → Call → Prop} {p : Phase}

/-! ## One effect -/

namespace Effect

/-- Whether an effect may be asked for in a phase: only calls of the store need a permission. -/
def Permitted (permits : Phase → Call → Prop) (p : Phase) : Effect handler → Prop
  | .call c => permits p c
  | _ => True

/-- Whether an answer can be expected: a call is answered by some store in memory. -/
def Expected : (e : Effect handler) → e.Answer → Prop
  | .call c, answer => ∃ s : Store, answer = (s.perform c).1
  | _, _ => True

end Effect

/-- The phase after an effect was answered. -/
def Phase.asked (p : Phase) : (e : Effect handler) → e.Answer → Phase
  | .call c, answer => p.called c answer
  | .freshId, id => p.drew id
  | _, _ => p

/-! ## Programs -/

namespace Program

/-- The program makes permitted calls only, and ends as `Q` says. -/
def Obeys (permits : Phase → Call → Prop) (Q : α → Phase → Prop) : Program handler α → Phase → Prop
  | .done a, p => Q a p
  | .ask e next, p =>
    e.Permitted permits p ∧
      ∀ answer, e.Expected answer → (next answer).Obeys permits Q (p.asked e answer)

variable {Q : α → Phase → Prop} {R : β → Phase → Prop}

@[simp] theorem obeys_done {a : α} : (done a : Program handler α).Obeys permits Q p ↔ Q a p := .rfl

theorem obeys_ask {e : Effect handler} {next : e.Answer → Program handler α} :
    (ask e next).Obeys permits Q p ↔
      e.Permitted permits p ∧
        ∀ answer, e.Expected answer → (next answer).Obeys permits Q (p.asked e answer) := .rfl

/-- A program obeys the rules up to a weaker end. -/
theorem Obeys.mono {x : Program handler α} {Q' : α → Phase → Prop} (h : x.Obeys permits Q p)
    (weaker : ∀ a p, Q a p → Q' a p) : x.Obeys permits Q' p := by
  induction x generalizing p with
  | done a => exact weaker a p h
  | ask e next ih => exact ⟨h.1, fun answer expected => ih answer (h.2 answer expected)⟩

/-- Two programs in a row obey the rules when the second one does from where the first one ends. -/
@[simp] theorem obeys_bind {x : Program handler α} {f : α → Program handler β} :
    (x >>= f).Obeys permits R p ↔ x.Obeys permits (fun a q => (f a).Obeys permits R q) p := by
  induction x generalizing p with
  | done a => rfl
  | ask e next ih =>
    rw [ask_bind, obeys_ask, obeys_ask]
    exact and_congr_right fun _ => forall_congr' fun answer => imp_congr_right fun _ => ih answer

@[simp] theorem obeys_map {x : Program handler α} {f : α → β} :
    (f <$> x).Obeys permits R p ↔ x.Obeys permits (fun a q => R (f a) q) p := by
  rw [← bind_pure_comp, obeys_bind]
  rfl

/-- One effect. It is an explicit argument, because the type of the answer depends on it. -/
theorem obeys_request (e : Effect handler) {Q : e.Answer → Phase → Prop} :
    (request e).Obeys permits Q p ↔
      e.Permitted permits p ∧ ∀ answer, e.Expected answer → Q answer (p.asked e answer) := .rfl

/-- A call is permitted, and any store may answer it. -/
theorem obeys_request_call (c : Call) {Q : Except QueueError c.Answer → Phase → Prop} :
    (request (.call c) : Program handler _).Obeys permits Q p ↔
      permits p c ∧ ∀ s : Store, Q (s.perform c).1 (p.called c (s.perform c).1) :=
  ⟨fun h => ⟨h.1, fun s => h.2 _ ⟨s, rfl⟩⟩,
    fun h => ⟨h.1, fun _ ⟨s, hs⟩ => hs ▸ h.2 s⟩⟩

@[simp] theorem obeys_request_now {Q : Instant → Phase → Prop} :
    (request .now : Program handler Instant).Obeys permits Q p ↔ ∀ time, Q time p :=
  ⟨fun h time => h.2 time trivial, fun h => ⟨trivial, fun time _ => h time⟩⟩

@[simp] theorem obeys_request_freshId {Q : Uuid → Phase → Prop} :
    (request .freshId : Program handler Uuid).Obeys permits Q p ↔ ∀ id, Q id (p.drew id) :=
  ⟨fun h id => h.2 id trivial, fun h => ⟨trivial, fun id _ => h id⟩⟩

@[simp] theorem obeys_tell {level : Level} {message : String} {fields : Fields}
    {Q : Unit → Phase → Prop} :
    (tell level message fields : Program handler Unit).Obeys permits Q p ↔ Q () p :=
  ⟨fun h => h.2 () trivial, fun h => ⟨trivial, fun _ _ => h⟩⟩

@[simp] theorem obeys_measure {m : Measurement} {Q : Unit → Phase → Prop} :
    (measure m : Program handler Unit).Obeys permits Q p ↔ Q () p :=
  ⟨fun h => h.2 () trivial, fun h => ⟨trivial, fun _ _ => h⟩⟩

/-- A span changes nothing. -/
@[simp] theorem obeys_within {span : Span} {x : Program handler α} :
    (within span x).Obeys permits Q p ↔ x.Obeys permits Q p := by
  have leave (a : α) (q : Phase) :
      (request .leave >>= fun _ => pure a : Program handler α).Obeys permits Q q ↔ Q a q :=
    ⟨fun h => h.2 () trivial, fun h => ⟨trivial, fun _ _ => h⟩⟩
  have enter (y : Program handler α) :
      (request (.enter span) >>= fun _ => y).Obeys permits Q p ↔ y.Obeys permits Q p :=
    ⟨fun h => h.2 () trivial, fun h => ⟨trivial, fun _ _ => h⟩⟩
  unfold within
  rw [enter, obeys_bind]
  simp only [leave]

end Program

/-! ## Programs that may fail -/

namespace QueueProgram

variable {x : QueueProgram handler α} {Q : Except QueueError α → Phase → Prop}
  {R : Except QueueError β → Phase → Prop}

/-- The second of two programs runs unless the first one failed. -/
@[simp] theorem obeys_run_bind {f : α → QueueProgram handler β} :
    (x >>= f).run.Obeys permits R p ↔
      x.run.Obeys permits
        (fun r q => match r with
          | .ok a => (f a).run.Obeys permits R q
          | .error e => R (.error e) q) p := by
  rw [ExceptT.run_bind, Program.obeys_bind]
  refine iff_of_eq (congrArg (fun S => Program.Obeys permits S x.run p) ?_)
  funext r q
  cases r <;> rfl

@[simp] theorem obeys_run_pure {a : α} :
    (pure a : QueueProgram handler α).run.Obeys permits Q p ↔ Q (.ok a) p := .rfl

@[simp] theorem obeys_run_throw {e : QueueError} :
    (throw e : QueueProgram handler α).run.Obeys permits Q p ↔ Q (.error e) p := .rfl

@[simp] theorem obeys_run_map {f : α → β} :
    (f <$> x).run.Obeys permits R p ↔ x.run.Obeys permits (fun r q => R (f <$> r) q) p := by
  rw [ExceptT.run_map, Program.obeys_map]
  rfl

@[simp] theorem obeys_run_lift {y : Program handler α} :
    (lift y).run.Obeys permits Q p ↔ y.Obeys permits (fun a q => Q (.ok a) q) p :=
  Program.obeys_map

@[simp] theorem obeys_run_settled {a : Except QueueError α} :
    (settled a : QueueProgram handler α).run.Obeys permits Q p ↔ Q a p := .rfl

theorem obeys_run_call (c : Call) {Q : Except QueueError c.Answer → Phase → Prop} :
    (call c : QueueProgram handler c.Answer).run.Obeys permits Q p ↔
      permits p c ∧ ∀ s : Store, Q (s.perform c).1 (p.called c (s.perform c).1) :=
  Program.obeys_request_call c

theorem obeys_run_attempt (c : Call)
    {Q : Except QueueError (Except QueueError c.Answer) → Phase → Prop} :
    (attempt c : QueueProgram handler _).run.Obeys permits Q p ↔
      permits p c ∧ ∀ s : Store, Q (.ok (s.perform c).1) (p.called c (s.perform c).1) :=
  obeys_run_lift.trans (Program.obeys_request_call c)

@[simp] theorem obeys_run_now {Q : Except QueueError Instant → Phase → Prop} :
    (now : QueueProgram handler Instant).run.Obeys permits Q p ↔ ∀ time, Q (.ok time) p :=
  obeys_run_lift.trans Program.obeys_request_now

@[simp] theorem obeys_run_freshId {Q : Except QueueError Uuid → Phase → Prop} :
    (freshId : QueueProgram handler Uuid).run.Obeys permits Q p ↔
      ∀ id, Q (.ok id) (p.drew id) :=
  obeys_run_lift.trans Program.obeys_request_freshId

@[simp] theorem obeys_run_tell {level : Level} {message : String} {fields : Fields}
    {Q : Except QueueError Unit → Phase → Prop} :
    (tell level message fields : QueueProgram handler Unit).run.Obeys permits Q p ↔ Q (.ok ()) p :=
  obeys_run_lift.trans Program.obeys_tell

@[simp] theorem obeys_run_within {span : Span} :
    (within span x).run.Obeys permits Q p ↔ x.run.Obeys permits Q p :=
  Program.obeys_within

end QueueProgram

end JobQueue
