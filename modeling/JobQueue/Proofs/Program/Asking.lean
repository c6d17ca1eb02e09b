import JobQueue.Program.Report

/-!
# What programs ask for

Some laws hold of a program because of what it never asks for, whatever it is answered.
`Program.AsksOnly` says so for any choice of what is allowed; its laws take a program apart at its
steps, as the program is written down.
-/

namespace JobQueue

variable {handler α β : Type} {allowed : Effect handler → Prop}

namespace Program

/-- The program asks only for what is allowed, whatever it is answered. -/
def AsksOnly (allowed : Effect handler → Prop) : Program handler α → Prop
  | .done _ => True
  | .ask e next => allowed e ∧ ∀ answer, (next answer).AsksOnly allowed

theorem asksOnly_done (a : α) : (done a : Program handler α).AsksOnly allowed := trivial

theorem asksOnly_request {e : Effect handler} (h : allowed e) : (request e).AsksOnly allowed :=
  ⟨h, fun _ => trivial⟩

theorem AsksOnly.bind {p : Program handler α} {f : α → Program handler β} (h : p.AsksOnly allowed)
    (h' : ∀ a, (f a).AsksOnly allowed) : (p >>= f).AsksOnly allowed := by
  induction p with
  | done a => exact h' a
  | ask e next ih => exact ⟨h.1, fun answer => ih answer (h.2 answer)⟩

theorem AsksOnly.within {span : Span} {p : Program handler α} (h : p.AsksOnly allowed)
    (enter : allowed (.enter span)) (leave : allowed .leave) :
    (within span p).AsksOnly allowed := by
  refine (asksOnly_request enter).bind fun _ => h.bind fun a => ?_
  exact (asksOnly_request leave).bind fun _ => asksOnly_done a

end Program

namespace QueueProgram

theorem asksOnly_bind {p : QueueProgram handler α} {f : α → QueueProgram handler β}
    (h : p.run.AsksOnly allowed) (h' : ∀ a, (f a).run.AsksOnly allowed) :
    (p >>= f).run.AsksOnly allowed := by
  rw [ExceptT.run_bind]
  refine h.bind fun r => ?_
  cases r with
  | ok a => exact h' a
  | error e => exact Program.asksOnly_done _

theorem asksOnly_lift {p : Program handler α} (h : p.AsksOnly allowed) :
    (lift p).run.AsksOnly allowed := by
  rw [lift, ExceptT.run_lift, map_eq_pure_bind]
  exact h.bind fun a => Program.asksOnly_done _

/-- An effect that is allowed may stand before a program. -/
theorem asksOnly_request_bind {e : Effect handler} {f : e.Answer → QueueProgram handler β}
    (h : allowed e) (h' : ∀ answer, (f answer).run.AsksOnly allowed) :
    (lift (Program.request e) >>= f).run.AsksOnly allowed :=
  asksOnly_bind (asksOnly_lift (Program.asksOnly_request h)) h'

/-- So may a call. -/
theorem asksOnly_call_bind {c : Call} {f : c.Answer → QueueProgram handler β}
    (h : allowed (.call c)) (h' : ∀ answer, (f answer).run.AsksOnly allowed) :
    (call c >>= f).run.AsksOnly allowed := by
  have asked : (call c : QueueProgram handler _).run.AsksOnly allowed := Program.asksOnly_request h
  exact asksOnly_bind asked h'

end QueueProgram

end JobQueue
