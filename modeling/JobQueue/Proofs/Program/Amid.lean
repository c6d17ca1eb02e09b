import JobQueue.Store.Call
import JobQueue.Program.Report

/-!
# Programs amid others

A program runs while others make calls of the same store, any number of them before each of its
own. A call that it makes itself may fail without effect, as when the way to the store is cut off;
all else that it asks for may be answered anyhow.

* `Deed`: a call that a program made, with its answer and the stores before and behind it.
* `Program.MayEnd`: what a program may end with, and what it may have done on the way.
* `Program.mayEnd_bind` and `QueueProgram.mayEnd_bind`: the deeds of two programs in a row are those
  of the first one and then those of the second.
-/

namespace JobQueue

variable {handler α β : Type} {s : Store} {deeds : List Deed}

/-! ## Deeds -/

/-- A call of a program, with its answer and the stores before and behind it. -/
structure Deed where
  call : Call
  answer : Except QueueError call.Answer
  before : Store
  after : Store

namespace Deed

/-- A call that the store answered. -/
def made (s : Store) (c : Call) : Deed := ⟨c, (s.perform c).1, s, (s.perform c).2⟩

/-- A call that failed without effect. -/
def failed (s : Store) (c : Call) (e : QueueError) : Deed := ⟨c, .error e, s, s⟩

@[simp] theorem before_made (s : Store) (c : Call) : (made s c).before = s := rfl

@[simp] theorem after_made (s : Store) (c : Call) : (made s c).after = (s.perform c).2 := rfl

@[simp] theorem before_failed (s : Store) (c : Call) (e : QueueError) :
    (failed s c e).before = s := rfl

@[simp] theorem after_failed (s : Store) (c : Call) (e : QueueError) :
    (failed s c e).after = s := rfl

end Deed

/-! ## Programs -/

/-- Whether an effect is a call of the store. -/
def Effect.isCall : Effect handler → Bool
  | .call _ => true
  | _ => false

namespace Program

/-- Amid others, a program that begins with this store may do this and end so. -/
inductive MayEnd : Program handler α → Store → List Deed → α → Prop
  | done (a : α) (s : Store) : MayEnd (.done a) s [] a
  /-- Somebody else makes a call. -/
  | others {p : Program handler α} {s : Store} {deeds : List Deed} {a : α} (c : Call)
      (rest : MayEnd p (s.perform c).2 deeds a) : MayEnd p s deeds a
  /-- The store answers a call. -/
  | made {c : Call} {next : Except QueueError c.Answer → Program handler α} {s : Store}
      {deeds : List Deed} {a : α} (rest : MayEnd (next (s.perform c).1) (s.perform c).2 deeds a) :
      MayEnd (.ask (.call c) next) s (.made s c :: deeds) a
  /-- A call fails without effect. -/
  | failed {c : Call} {next : Except QueueError c.Answer → Program handler α} {s : Store}
      {deeds : List Deed} {a : α} (e : QueueError) (rest : MayEnd (next (.error e)) s deeds a) :
      MayEnd (.ask (.call c) next) s (.failed s c e :: deeds) a
  /-- Something else is answered. -/
  | answered {e : Effect handler} {next : e.Answer → Program handler α} {s : Store}
      {deeds : List Deed} {a : α} (silent : e.isCall = false) (answer : e.Answer)
      (rest : MayEnd (next answer) s deeds a) : MayEnd (.ask e next) s deeds a

/-- A program that is done does nothing more. -/
theorem MayEnd.of_done {a b : α} (h : (Program.done a : Program handler α).MayEnd s deeds b) :
    deeds = [] ∧ b = a := by
  generalize hp : (Program.done a : Program handler α) = p at h
  induction h with
  | done b s =>
    cases hp
    exact ⟨rfl, rfl⟩
  | others c rest ih => exact ih hp
  | made | failed | answered => cases hp

/-- A program that makes a call goes on with what the store answers, or with an error. -/
theorem MayEnd.of_call {c : Call} {next : Except QueueError c.Answer → Program handler α} {a : α}
    (h : (ask (.call c) next).MayEnd s deeds a) :
    ∃ before rest,
      (deeds = .made before c :: rest ∧
        (next (before.perform c).1).MayEnd (before.perform c).2 rest a) ∨
      ∃ e, deeds = .failed before c e :: rest ∧ (next (.error e)).MayEnd before rest a := by
  generalize hp : ask (.call c) next = p at h
  induction h with
  | done => cases hp
  | others c rest ih => exact ih hp
  | made rest =>
    cases hp
    exact ⟨_, _, .inl ⟨rfl, rest⟩⟩
  | failed e rest =>
    cases hp
    exact ⟨_, _, .inr ⟨e, rfl, rest⟩⟩
  | answered silent answer rest =>
    cases hp
    cases silent

/-- A program that asks for anything but a call does nothing by that. -/
theorem MayEnd.of_ask {e : Effect handler} {next : e.Answer → Program handler α} {a : α}
    (h : (ask e next).MayEnd s deeds a) (silent : e.isCall = false) :
    ∃ answer before, (next answer).MayEnd before deeds a := by
  generalize hp : ask e next = p at h
  induction h with
  | done => cases hp
  | others c rest ih => exact ih hp
  | made | failed =>
    cases hp
    cases silent
  | answered _ answer rest =>
    cases hp
    exact ⟨answer, _, rest⟩

/-- The deeds of two programs in a row are those of the first one and then those of the second. -/
theorem mayEnd_bind {p : Program handler α} {f : α → Program handler β} {b : β}
    (h : (p >>= f).MayEnd s deeds b) :
    ∃ a first rest middle, deeds = first ++ rest ∧ p.MayEnd s first a ∧
      (f a).MayEnd middle rest b := by
  -- a first part that is done leaves all deeds to the second one
  have at_once (a : α) {s : Store} {deeds : List Deed} {b : β} {q : Program handler β}
      (same : f a = q) (h : q.MayEnd s deeds b) :
      ∃ a' first rest middle, deeds = first ++ rest ∧
        (Program.done a : Program handler α).MayEnd s first a' ∧ (f a').MayEnd middle rest b :=
    ⟨a, [], deeds, s, rfl, .done a s, same ▸ h⟩
  generalize hq : p >>= f = q at h
  induction h generalizing p with
  | done b s =>
    cases p with
    | done a => exact at_once a hq (.done b s)
    | ask => cases hq
  | others c rest ih =>
    obtain ⟨a, first, last, middle, rfl, h, h'⟩ := ih hq
    exact ⟨a, first, last, middle, rfl, .others c h, h'⟩
  | made rest ih =>
    cases p with
    | done a => exact at_once a hq (.made rest)
    | ask _ next =>
      cases hq
      obtain ⟨a, first, last, middle, rfl, h, h'⟩ := ih rfl
      exact ⟨a, _ :: first, last, middle, rfl, .made h, h'⟩
  | failed e rest ih =>
    cases p with
    | done a => exact at_once a hq (.failed e rest)
    | ask _ next =>
      cases hq
      obtain ⟨a, first, last, middle, rfl, h, h'⟩ := ih rfl
      exact ⟨a, _ :: first, last, middle, rfl, .failed e h, h'⟩
  | answered silent answer rest ih =>
    cases p with
    | done a => exact at_once a hq (.answered silent answer rest)
    | ask _ next =>
      cases hq
      obtain ⟨a, first, last, middle, rfl, h, h'⟩ := ih rfl
      exact ⟨a, first, last, middle, rfl, .answered silent answer h, h'⟩

/-- A program does nothing, whatever it is answered. -/
def Quiet (p : Program handler α) : Prop := ∀ ⦃s deeds a⦄, p.MayEnd s deeds a → deeds = []

/-- Asking for anything but a call is no deed. -/
theorem quiet_request {e : Effect handler} (silent : e.isCall = false) : (request e).Quiet := by
  intro s deeds a h
  obtain ⟨answer, before, rest⟩ := h.of_ask silent
  exact rest.of_done.1

theorem Quiet.bind {p : Program handler α} {f : α → Program handler β} (quiet : p.Quiet)
    (others : ∀ a, (f a).Quiet) : (p >>= f).Quiet := by
  intro s deeds b h
  obtain ⟨a, first, rest, middle, rfl, h, h'⟩ := mayEnd_bind h
  rw [quiet h, others a h', List.append_nil]

theorem quiet_reportEnqueued (job : Job) : (reportEnqueued job : Program handler Unit).Quiet :=
  Quiet.bind (quiet_request rfl) fun _ => quiet_request rfl

/-- A call is made, or fails without effect. -/
theorem MayEnd.of_requestCall {c : Call} {answer : Except QueueError c.Answer}
    (h : (request (.call c) : Program handler _).MayEnd s deeds answer) :
    ∃ before, (deeds = [.made before c] ∧ answer = (before.perform c).1) ∨
      ∃ e, deeds = [.failed before c e] ∧ answer = .error e := by
  obtain ⟨before, rest, ⟨rfl, made⟩ | ⟨e, rfl, failed⟩⟩ := h.of_call
  · obtain ⟨rfl, rfl⟩ := made.of_done
    exact ⟨before, .inl ⟨rfl, rfl⟩⟩
  · obtain ⟨rfl, rfl⟩ := failed.of_done
    exact ⟨before, .inr ⟨e, rfl, rfl⟩⟩

/-- A span does nothing by itself. -/
theorem MayEnd.of_within {span : Span} {p : Program handler α} {a : α}
    (h : (within span p).MayEnd s deeds a) : ∃ before, p.MayEnd before deeds a := by
  obtain ⟨_, before, inside⟩ := h.of_ask rfl
  have inside : (p >>= fun a => request .leave >>= fun _ => pure a).MayEnd before deeds a := inside
  obtain ⟨b, first, last, middle, rfl, h, leaving⟩ := mayEnd_bind inside
  obtain ⟨_, behind, ending⟩ := leaving.of_ask rfl
  obtain ⟨rfl, rfl⟩ := MayEnd.of_done ending
  exact ⟨before, by rwa [List.append_nil]⟩

end Program

namespace QueueProgram

open Program

/-- A program that may fail ends in an error of its first part, or goes on. -/
theorem mayEnd_bind {p : QueueProgram handler α} {f : α → QueueProgram handler β}
    {result : Except QueueError β} (h : (p >>= f).run.MayEnd s deeds result) :
    (∃ e, result = .error e ∧ p.run.MayEnd s deeds (.error e)) ∨
    ∃ a first rest middle, deeds = first ++ rest ∧ p.run.MayEnd s first (.ok a) ∧
      (f a).run.MayEnd middle rest result := by
  rw [ExceptT.run_bind] at h
  obtain ⟨e | a, first, rest, middle, rfl, h, h'⟩ := Program.mayEnd_bind h
  · obtain ⟨rfl, rfl⟩ := MayEnd.of_done h'
    exact .inl ⟨e, rfl, by rwa [List.append_nil]⟩
  · exact .inr ⟨a, first, rest, middle, rfl, h, h'⟩

/-- A call is made, or fails without effect; its error is gone on with. -/
theorem mayEnd_attempt_bind {c : Call} {f : Except QueueError c.Answer → QueueProgram handler β}
    {result : Except QueueError β} (h : (attempt c >>= f).run.MayEnd s deeds result) :
    ∃ before rest middle,
      (deeds = .made before c :: rest ∧ (f (before.perform c).1).run.MayEnd middle rest result) ∨
      ∃ e, deeds = .failed before c e :: rest ∧ (f (.error e)).run.MayEnd middle rest result := by
  obtain ⟨before, rest, ⟨rfl, made⟩ | ⟨e, rfl, failed⟩⟩ := MayEnd.of_call h
  · exact ⟨before, rest, _, .inl ⟨rfl, made⟩⟩
  · exact ⟨before, rest, _, .inr ⟨e, rfl, failed⟩⟩

/-- A call is made, or fails without effect; an error ends the program. -/
theorem mayEnd_call_bind {c : Call} {f : c.Answer → QueueProgram handler β}
    {result : Except QueueError β} (h : (call c >>= f).run.MayEnd s deeds result) :
    (∃ before e, result = .error e ∧ (deeds = [.failed before c e] ∨
      deeds = [.made before c] ∧ (before.perform c).1 = .error e)) ∨
    ∃ before rest middle answer, deeds = .made before c :: rest ∧
      (before.perform c).1 = .ok answer ∧ (f answer).run.MayEnd middle rest result := by
  rcases mayEnd_bind h with ⟨e, rfl, asked⟩ | ⟨answer, first, rest, middle, rfl, asked, after⟩
  · obtain ⟨before, ⟨rfl, same⟩ | ⟨e', rfl, same⟩⟩ := MayEnd.of_requestCall asked
    · exact .inl ⟨before, e, rfl, .inr ⟨rfl, same.symm⟩⟩
    · cases same
      exact .inl ⟨before, e, rfl, .inl rfl⟩
  · obtain ⟨before, ⟨rfl, same⟩ | ⟨e', rfl, same⟩⟩ := MayEnd.of_requestCall asked
    · exact .inr ⟨before, rest, middle, answer, rfl, same.symm, after⟩
    · cases same

/-- What a quiet part asks for is no deed. -/
theorem mayEnd_quiet_bind {p : Program handler α} {f : α → QueueProgram handler β}
    {result : Except QueueError β} (quiet : p.Quiet)
    (h : (lift p >>= f).run.MayEnd s deeds result) :
    ∃ a middle, (f a).run.MayEnd middle deeds result := by
  have split : (p >>= fun a => (f a).run).MayEnd s deeds result := by
    rwa [ExceptT.run_bind, lift, ExceptT.run_lift, map_eq_pure_bind, bind_assoc] at h
  obtain ⟨a, first, rest, middle, rfl, h, h'⟩ := Program.mayEnd_bind split
  obtain rfl := quiet h
  exact ⟨a, middle, h'⟩

theorem mayEnd_now_bind {f : Instant → QueueProgram handler β} {result : Except QueueError β}
    (h : (now >>= f).run.MayEnd s deeds result) :
    ∃ time middle, (f time).run.MayEnd middle deeds result :=
  mayEnd_quiet_bind (quiet_request rfl) h

theorem mayEnd_freshId_bind {f : Uuid → QueueProgram handler β} {result : Except QueueError β}
    (h : (freshId >>= f).run.MayEnd s deeds result) :
    ∃ id middle, (f id).run.MayEnd middle deeds result :=
  mayEnd_quiet_bind (quiet_request rfl) h

theorem mayEnd_tell_bind {level : Level} {message : String} {fields : Fields}
    {f : Unit → QueueProgram handler β} {result : Except QueueError β}
    (h : (tell level message fields >>= f).run.MayEnd s deeds result) :
    ∃ middle, (f ()).run.MayEnd middle deeds result :=
  (mayEnd_quiet_bind (quiet_request rfl) h).elim fun _ goesOn => goesOn

end QueueProgram

end JobQueue
