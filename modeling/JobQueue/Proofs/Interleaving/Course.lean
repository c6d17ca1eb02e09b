import JobQueue.Proofs.Interleaving.System
import JobQueue.Proofs.Program.Conduct
import Mathlib.Logic.Relation

/-!
# The course of a ledger

Whatever the moves of a system are, what there is to see of it changes by three kinds of steps: an
actor makes a call that its phase permits, it draws a new identifier, or its program ends as it may.
The phase of an actor is read off the history, so that the programs need not be looked at any more.

* `Ledger.Step` is one such step, `Ledger.Course` several of them, and `System.run_course` says that
  every run of a system takes them.
* `Ledger.Course.split` finds the step at which any given thing happened.
-/

namespace JobQueue

variable {handler ι κ : Type} [DecidableEq ι] [DecidableEq κ]

/-! ## Phases of a history -/

/-- The phase of an actor after one more occurrence. Only its own matter. -/
def Phase.after (actor : Actor ι κ) (p : Phase) : Occurrence ι κ → Phase
  | .called a c before => if a = actor then p.called c (before.perform c).1 else p
  | .drew a id => if a = actor then p.drew id else p
  | .ended a _ => if a = actor then .idle else p

/-- The phase of an actor after a history. -/
def phase (h : List (Occurrence ι κ)) (actor : Actor ι κ) : Phase :=
  h.foldl (Phase.after actor) .idle

section

variable (h : List (Occurrence ι κ)) (a actor : Actor ι κ)

theorem phase_called (c : Call) (before : Store) :
    phase (h ++ [.called a c before]) actor =
      if a = actor then (phase h actor).called c (before.perform c).1 else phase h actor := by
  simp [phase, Phase.after]

theorem phase_drew (id : Uuid) :
    phase (h ++ [.drew a id]) actor =
      if a = actor then (phase h actor).drew id else phase h actor := by
  simp [phase, Phase.after]

theorem phase_ended (ending : Ending) :
    phase (h ++ [.ended a ending]) actor = if a = actor then .idle else phase h actor := by
  simp [phase, Phase.after]

end

/-! ## What actors may do -/

/-- The calls that an actor may make, for the workers of a crew. -/
def Actor.permits (crew : ι → Worker handler) : Actor ι κ → Phase → Call → Prop
  | .worker i => (crew i).permits
  | .renewal _ => renewalPermits
  | .client _ => clientPermits

/-- How the program of an actor may end. -/
def Actor.concludes : Actor ι κ → Ending → Phase → Prop
  | .worker _, ending, p => ∃ r, ending = .iteration r ∧ Iteration r p
  | .renewal _, _, _ => True
  | .client _, ending, _ => ending = .errand

section

variable (crew : ι → Worker handler) (p : Phase)

omit [DecidableEq ι] [DecidableEq κ]

theorem Worker.iteration_obeys (i : ι) :
    (crew i).iteration.Obeys ((Actor.worker (κ := κ) i).permits crew)
      (Actor.worker (κ := κ) i).concludes .idle := by
  rw [iteration, Program.obeys_map]
  exact (Worker.runOnce_obeys rfl rfl).mono fun r q h => ⟨r, rfl, h⟩

theorem renewalOf_obeys (i : ι) (job : Uuid) (owner : String) :
    (renewalOf job owner : Program handler Ending).Obeys ((Actor.renewal (κ := κ) i).permits crew)
      (Actor.renewal (κ := κ) i).concludes p := by
  rw [renewalOf, Program.obeys_map]
  exact Worker.renewalTurn_obeys fun _ _ => trivial

theorem Errand.obeys (errand : Errand) (k : κ) :
    (errand.program : Program handler Ending).Obeys ((Actor.client (ι := ι) k).permits crew)
      (Actor.client (ι := ι) k).concludes p := by
  cases errand <;> refine Program.obeys_map.mpr ?_
  case enqueue => exact Client.enqueue_obeys fun _ _ => rfl
  case getJob => exact Client.getJob_obeys fun _ _ => rfl
  case listJobs => exact Client.listJobs_obeys fun _ _ => rfl
  case snapshot => exact Client.snapshot_obeys fun _ _ => rfl
  case retry => exact DeadLetterQueue.retry_obeys fun _ _ => rfl
  case getRecord => exact DeadLetterQueue.get_obeys fun _ _ => rfl
  case listRecords => exact DeadLetterQueue.list_obeys fun _ _ => rfl
  case deleteRecord => exact DeadLetterQueue.delete_obeys fun _ _ => rfl
  case prune => exact DeadLetterQueue.prune_obeys fun _ _ => rfl
  case countRecords => exact DeadLetterQueue.count_obeys fun _ _ => rfl

end

namespace Actor

variable {crew : ι → Worker handler} {actor : Actor ι κ} {p : Phase}

omit [DecidableEq ι] [DecidableEq κ]

/-- Only new jobs are put in, under the identifiers that were drawn for them. -/
theorem drawn_of_insert {job : Job} (h : actor.permits crew p (.insert job)) :
    p.drawn = some job.id ∧ job.IsNew := by
  cases actor with
  | client k => exact h
  | _ => exact h.elim

/-- Only workers make records, of the first job that they owe one. -/
theorem owed_of_insertDeadLetter {record : DeadLetter}
    (h : actor.permits crew p (.insertDeadLetter record)) :
    (∃ i, actor = .worker i) ∧ p.drawn = some record.id ∧
      ∃ job rest, p.owed = job :: rest ∧ record.IsOf job := by
  cases actor with
  | worker i => exact ⟨⟨i, rfl⟩, h.2⟩
  | _ => exact h.elim

/-- Only workers claim, each in its own name. -/
theorem worker_of_claimNext {worker : String} {now : Instant}
    (h : actor.permits crew p (.claimNext worker now)) :
    ∃ i, actor = .worker i ∧ worker = (crew i).id := by
  cases actor with
  | worker i => exact ⟨i, rfl, h.1⟩
  | _ => exact h.elim

/-- Only workers fail jobs and make records. -/
theorem worker_of_failed {c : Call} {answer : Except QueueError c.Answer}
    (h : actor.permits crew p c) (did : c.failed answer ≠ [] ∨ c.buried? ≠ none) :
    ∃ i, actor = .worker i := by
  cases actor with
  | worker i => exact ⟨i, rfl⟩
  | renewal i => cases c <;> first | exact h.elim | simp [Call.failed, Call.buried?] at did
  | client k => cases c <;> first | exact h.elim | simp [Call.failed, Call.buried?] at did

/-- Only workers end attempts, each in its own name, and at the job that it treats. -/
theorem worker_of_ends {c : Call} {id : Uuid} {owner : String} (h : actor.permits crew p c)
    (ends : c.ends? = some (id, owner)) :
    ∃ i, actor = .worker i ∧ owner = (crew i).id ∧
      ∃ job, p.stage = .treating job ∧ job.id = id := by
  cases actor with
  | worker i => exact ⟨i, rfl, Worker.treating_of_ends h ends⟩
  | renewal i =>
    cases c <;> simp only [Call.ends?, reduceCtorEq] at ends
    all_goals exact h.elim
  | client k =>
    cases c <;> simp only [Call.ends?, reduceCtorEq] at ends
    all_goals exact h.elim

end Actor

/-! ## Steps -/

namespace Ledger

/-- One step of a ledger, for the workers of a crew. -/
inductive Step (crew : ι → Worker handler) (l : Ledger ι κ) : Ledger ι κ → Prop where
  | called {actor : Actor ι κ} {c : Call}
      (permitted : actor.permits crew (phase l.history actor) c) :
      Step crew l (l.called actor c)
  | drew (actor : Actor ι κ) {id : Uuid} (fresh : id ∉ l.issued) : Step crew l (l.drew actor id)
  | ended {actor : Actor ι κ} {ending : Ending}
      (concluded : actor.concludes ending (phase l.history actor)) :
      Step crew l (l.ended actor ending)

/-- Several steps. -/
def Course (crew : ι → Worker handler) : Ledger ι κ → Ledger ι κ → Prop :=
  Relation.ReflTransGen (Step crew)

/-- The steps from an empty store on. -/
def Reached (crew : ι → Worker handler) (l : Ledger ι κ) : Prop := Course crew (opening .empty) l

end Ledger

/-! ## Runs are courses -/

/-- What holds of the program of an actor in its phase: it obeys the rules, and an actor without one
is idle. -/
def Actor.Keeps (crew : ι → Worker handler) (actor : Actor ι κ)
    (thread : Option (Program handler Ending)) (p : Phase) : Prop :=
  match thread with
  | none => p = .idle
  | some program => program.Obeys (actor.permits crew) actor.concludes p

namespace System

variable {crew : ι → Worker handler} {s t : System handler ι κ} {actor : Actor ι κ}

section

omit [DecidableEq ι] [DecidableEq κ]

/-- The surroundings answer as can be expected. -/
theorem expected_answer (o : Surroundings) (s : Store) (e : Effect handler) :
    e.Expected (o.answer s e) := by
  cases e with
  | call c => exact ⟨s, rfl⟩
  | _ => trivial

/-- What follows the end of a program by itself keeps to the rules, too. -/
theorem keeps_next {ending : Ending} {p : Phase} (concluded : actor.concludes ending p) :
    actor.Keeps crew ending.next? .idle := by
  cases actor with
  | worker i =>
    obtain ⟨r, rfl, -⟩ := concluded
    rfl
  | renewal i =>
    cases ending with
    | renewal job owner turn =>
      cases turn with
      | again => exact renewalOf_obeys crew _ i job owner
      | stop => rfl
    | _ => rfl
  | client k =>
    cases concluded
    rfl

end

/-- All actors keep to the rules. -/
def Sound (crew : ι → Worker handler) (s : System handler ι κ) : Prop :=
  ∀ actor : Actor ι κ, actor.Keeps crew (s.threads actor) (phase s.history actor)

theorem sound_opening (crew : ι → Worker handler) (s : Store) :
    (opening s : System handler ι κ).Sound crew :=
  fun _ => rfl

/-- When one actor changes its program, the others keep to the rules as before. -/
theorem keeps_update {threads : Actor ι κ → Option (Program handler Ending)}
    {thread : Option (Program handler Ending)} {phases : Actor ι κ → Phase}
    (own : actor.Keeps crew thread (phases actor))
    (others : ∀ other, other ≠ actor → other.Keeps crew (threads other) (phases other))
    (other : Actor ι κ) :
    other.Keeps crew (Function.update threads actor thread other) (phases other) := by
  by_cases heq : other = actor
  · rw [heq, Function.update_self]
    exact own
  · rw [Function.update_of_ne heq]
    exact others other heq

/-- An actor that begins a program keeps to the rules when the program obeys them from idleness
on. -/
theorem Sound.start {program : Program handler Ending} (sound : s.Sound crew)
    (obeys : program.Obeys (actor.permits crew) actor.concludes .idle)
    (h : s.start? actor program = some t) : t.Sound crew ∧ t.toLedger = s.toLedger := by
  unfold start? at h
  split at h
  next hnone =>
    cases h
    refine ⟨keeps_update ?_ fun other _ => sound other, rfl⟩
    have hidle := sound actor
    rw [Option.isNone_iff_eq_none.mp hnone] at hidle
    show program.Obeys _ _ _
    rwa [show phase s.history actor = .idle from hidle]
  next => cases h

/-- The phase of each actor after an effect. -/
theorem phase_asked (l : Ledger ι κ) (o : Surroundings) (e : Effect handler) (other : Actor ι κ) :
    phase (l.asked actor o e).history other =
      if actor = other then (phase l.history other).asked e (o.answer l.store e)
      else phase l.history other := by
  cases e with
  | call c => exact phase_called _ _ _ _ _
  | freshId => exact phase_drew _ _ _ _
  | _ => exact (ite_self _).symm

/-- The renewals that a worker starts keep to the rules, and so do those who were there before. -/
theorem Sound.beside (sound : s.Sound crew) (e : Effect handler) (other : Actor ι κ) :
    other.Keeps crew (s.beside actor e other) (phase s.history other) := by
  cases e with
  | startRenewal job owner =>
    cases actor with
    | worker i =>
      have others (other : Actor ι κ) (_ : other ≠ .renewal i) :
          other.Keeps crew (s.threads other) (phase s.history other) := sound other
      refine keeps_update ?_ others other
      exact renewalOf_obeys crew _ i job owner
    | _ => exact sound other
  | _ => exact sound other

/-- An effect that is admitted is a step of the ledger, or cannot be seen in it. -/
theorem step_asked {e : Effect handler} {o : Surroundings}
    (permitted : e.Permitted (actor.permits crew) (phase s.history actor))
    (admitted : s.admits actor o e) :
    Relation.ReflTransGen (Ledger.Step crew) s.toLedger (s.toLedger.asked actor o e) := by
  cases e with
  | call c => exact .single (.called permitted)
  | freshId => exact .single (.drew actor (by simpa [admits] using admitted))
  | _ => exact .refl

/-- An actor that goes on keeps to the rules, and what there is to see of it are steps. -/
theorem Sound.resume {program : Program handler Ending} {o : Surroundings} (sound : s.Sound crew)
    (hthread : s.threads actor = some program) (h : s.resume actor o program = some t) :
    t.Sound crew ∧ Ledger.Course crew s.toLedger t.toLedger := by
  have own := sound actor
  rw [hthread] at own
  cases program with
  | done ending =>
    cases h
    refine ⟨fun other => keeps_update ?_ (fun other hne => ?_) other, .single (.ended own)⟩
    · show actor.Keeps crew ending.next? (phase (s.history ++ [.ended actor ending]) actor)
      rw [phase_ended, if_pos rfl]
      exact keeps_next own
    · show other.Keeps crew _ (phase (s.history ++ [.ended actor ending]) other)
      rw [phase_ended, if_neg (Ne.symm hne)]
      exact sound other
  | ask e next =>
    simp only [System.resume] at h
    split at h
    next admitted =>
      cases h
      refine ⟨fun other => keeps_update ?_ (fun other hne => ?_) other,
        step_asked own.1 admitted⟩
      · show Program.Obeys _ _ _ (phase (s.toLedger.asked actor o e).history actor)
        rw [phase_asked, if_pos rfl]
        exact own.2 _ (expected_answer o s.store e)
      · show other.Keeps crew _ (phase (s.toLedger.asked actor o e).history other)
        rw [phase_asked, if_neg (Ne.symm hne)]
        exact sound.beside e other
    next => cases h

/-- One move keeps the system sound, and what there is to see of it are steps of the ledger. -/
theorem Sound.step {move : Move ι κ} (sound : s.Sound crew) (h : s.step crew move = some t) :
    t.Sound crew ∧ Ledger.Course crew s.toLedger t.toLedger := by
  cases move with
  | begin i =>
    obtain ⟨hsound, hsame⟩ := sound.start (Worker.iteration_obeys crew i) h
    exact ⟨hsound, hsame ▸ .refl⟩
  | undertake k errand =>
    obtain ⟨hsound, hsame⟩ := sound.start (errand.obeys crew _ k) h
    exact ⟨hsound, hsame ▸ .refl⟩
  | go actor o =>
    obtain ⟨program, hthread, hresume⟩ := Option.bind_eq_some_iff.mp h
    exact sound.resume hthread hresume

/-- **Every run is a course of its ledger**, and keeps the system sound. -/
theorem Sound.run {moves : List (Move ι κ)} (sound : s.Sound crew)
    (h : s.run crew moves = some t) :
    t.Sound crew ∧ Ledger.Course crew s.toLedger t.toLedger := by
  induction moves generalizing s with
  | nil =>
    cases h
    exact ⟨sound, .refl⟩
  | cons move moves ih =>
    obtain ⟨u, hstep, hrun⟩ := Option.bind_eq_some_iff.mp h
    obtain ⟨hsound, hcourse⟩ := sound.step hstep
    obtain ⟨hsound', hcourse'⟩ := ih hsound hrun
    exact ⟨hsound', hcourse.trans hcourse'⟩

theorem run_course {moves : List (Move ι κ)} {start : Store}
    (h : (opening start : System handler ι κ).run crew moves = some t) :
    Ledger.Course crew (.opening start) t.toLedger :=
  ((sound_opening crew start).run h).2

end System

/-! ## What happened when -/

namespace Ledger

variable {crew : ι → Worker handler} {l m : Ledger ι κ}

/-- A step is one occurrence. -/
theorem Step.history (h : Step crew l m) : ∃ e, m.history = l.history ++ [e] := by
  cases h with
  | called => exact ⟨_, rfl⟩
  | drew => exact ⟨_, rfl⟩
  | ended => exact ⟨_, rfl⟩

/-- A course goes on with its history. -/
theorem Course.history_prefix (h : Course crew l m) : l.history <+: m.history := by
  induction h with
  | refl => exact List.prefix_refl _
  | tail _ hstep ih =>
    obtain ⟨e, he⟩ := hstep.history
    rw [he]
    exact ih.trans (List.prefix_append _ _)

/-- The step at which something happened. -/
theorem Course.split {k : Ledger ι κ} {past later : List (Occurrence ι κ)} {e : Occurrence ι κ}
    (h : Course crew k l) (hk : k.history <+: past) (hl : l.history = past ++ e :: later) :
    ∃ m m', Course crew k m ∧ Step crew m m' ∧ Course crew m' l ∧
      m.history = past ∧ m'.history = past ++ [e] := by
  induction h generalizing later with
  | refl =>
    have hlong := hk.length_le
    rw [hl, List.length_append, List.length_cons] at hlong
    omega
  | @tail l l' hcourse hstep ih =>
    obtain ⟨e', he'⟩ := hstep.history
    rw [hl] at he'
    rcases List.eq_nil_or_concat later with rfl | ⟨later', last, rfl⟩
    · obtain ⟨hpast, he⟩ := List.append_inj' he' rfl
      cases he
      exact ⟨l, l', hcourse, hstep, .refl, hpast.symm, hl⟩
    · rw [List.concat_eq_append, ← List.cons_append, ← List.append_assoc] at he'
      obtain ⟨hpast, -⟩ := List.append_inj' he' rfl
      obtain ⟨m, m', h₁, h₂, h₃, h₄, h₅⟩ := ih hpast.symm
      exact ⟨m, m', h₁, h₂, h₃.tail hstep, h₄, h₅⟩

/-- The step of a call was permitted, and the call found the store of that step. -/
theorem Step.of_called {actor : Actor ι κ} {c : Call} {before : Store} (h : Step crew l m)
    (hm : m.history = l.history ++ [.called actor c before]) :
    before = l.store ∧ m = l.called actor c ∧
      actor.permits crew (phase l.history actor) c := by
  cases h with
  | called permitted =>
    have heq := List.append_cancel_left hm
    simp only [List.cons.injEq, Occurrence.called.injEq, and_true] at heq
    obtain ⟨rfl, rfl, rfl⟩ := heq
    exact ⟨rfl, rfl, permitted⟩
  | drew => simp [Ledger.drew] at hm
  | ended => simp [Ledger.ended] at hm

/-- The step at which a program ended was allowed. -/
theorem Step.of_ended {actor : Actor ι κ} {ending : Ending} (h : Step crew l m)
    (hm : m.history = l.history ++ [.ended actor ending]) :
    actor.concludes ending (phase l.history actor) := by
  cases h with
  | called => simp [Ledger.called] at hm
  | drew => simp [Ledger.drew] at hm
  | ended concluded =>
    have heq := List.append_cancel_left hm
    simp only [List.cons.injEq, Occurrence.ended.injEq, and_true] at heq
    obtain ⟨rfl, rfl⟩ := heq
    exact concluded

/-- What is known of a call: the ledger that it was made at, that it was permitted there, and that
the course goes on from it. -/
theorem Course.of_called {start : Store} {earlier later : List (Occurrence ι κ)}
    {actor : Actor ι κ} {c : Call} {before : Store} (h : Course crew (opening start) l)
    (happened : l.history = earlier ++ .called actor c before :: later) :
    ∃ m, Course crew (opening start) m ∧ m.history = earlier ∧ m.store = before ∧
      actor.permits crew (phase earlier actor) c ∧ Course crew (m.called actor c) l := by
  obtain ⟨m, m', hm, hstep, hm', hearlier, hcalled⟩ := h.split List.nil_prefix happened
  rw [← hearlier] at hcalled
  obtain ⟨hstore, rfl, permitted⟩ := hstep.of_called hcalled
  exact ⟨m, hm, hearlier, hstore.symm, hearlier ▸ permitted, hm'⟩

end Ledger

end JobQueue
