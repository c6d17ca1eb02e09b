import JobQueue.Proofs.Interleaving.Course

/-!
# Fresh identifiers

No identifier is given out twice, so that a job or a record that is put in never takes the place of
another one.

* `Ledger.Fresh`: the identifiers of the store and of the records made were given out, and one that
  an actor drew and has not used is nowhere yet and belongs to that actor alone.
* `Ledger.Course.fresh`: this holds along every course.
* `Ledger.Fresh.new_of_insert`: a job that is put in finds no job in its place.
-/

namespace JobQueue

variable {handler ι κ : Type}

/-! ## Records -/

/-- The record that was made. -/
def Occurrence.record? : Occurrence ι κ → Option DeadLetter
  | .called _ c _ => c.buried?
  | _ => none

/-- The records ever made, the first one first. -/
def records (h : List (Occurrence ι κ)) : List DeadLetter := h.filterMap Occurrence.record?

@[simp] theorem records_append (h : List (Occurrence ι κ)) (e : Occurrence ι κ) :
    records (h ++ [e]) = records h ++ e.record?.toList := by
  simp only [records, List.filterMap_append, List.filterMap_cons, List.filterMap_nil]
  cases e.record? <;> rfl

/-! ## What actors put in -/

/-- What is put in goes under the identifier that its actor drew. -/
theorem Actor.drawn_of_putsNew {crew : ι → Worker handler} {actor : Actor ι κ} {c : Call}
    {p : Phase} (permitted : actor.permits crew p c) (id : Uuid)
    (h : (∃ job, c = .insert job ∧ job.id = id) ∨ (∃ r, c.buried? = some r ∧ r.id = id)) :
    p.drawn = some id ∧ c.putsNew = true := by
  rcases h with ⟨job, rfl, rfl⟩ | ⟨r, hr, rfl⟩
  · exact ⟨(drawn_of_insert permitted).1, rfl⟩
  · cases c <;> simp only [Call.buried?, reduceCtorEq, Option.some.injEq] at hr
    subst hr
    exact ⟨(owed_of_insertDeadLetter permitted).2.1, rfl⟩

/-! ## The invariant -/

variable [DecidableEq ι] [DecidableEq κ]

namespace Ledger

variable {crew : ι → Worker handler} {l m : Ledger ι κ}

/-- Identifiers are given out once. -/
structure Fresh (l : Ledger ι κ) : Prop where
  unique : l.store.UniqueIds
  jobs : ∀ job ∈ l.store.jobs, job.id ∈ l.issued
  records : ∀ r ∈ records l.history, r.id ∈ l.issued
  distinct : ((JobQueue.records l.history).map DeadLetter.id).Nodup
  issued : ∀ actor id, (phase l.history actor).drawn = some id → id ∈ l.issued
  absent : ∀ actor id, (phase l.history actor).drawn = some id → l.store.find? id = none
  unrecorded : ∀ actor id, (phase l.history actor).drawn = some id →
    ∀ r ∈ JobQueue.records l.history, r.id ≠ id
  own : ∀ actor other id, (phase l.history actor).drawn = some id →
    (phase l.history other).drawn = some id → actor = other

theorem fresh_opening {start : Store} (unique : start.UniqueIds) :
    (opening start : Ledger ι κ).Fresh where
  unique := unique
  jobs job hjob := List.mem_append_left _ (List.mem_map_of_mem hjob)
  records r hr := by cases hr
  distinct := List.nodup_nil
  issued actor id h := by cases h
  absent actor id h := by cases h
  unrecorded actor id h := by cases h
  own actor other id h := by cases h

/-- A job that is put in finds no job in its place. -/
theorem Fresh.new_of_insert (fresh : l.Fresh) {actor : Actor ι κ} {job : Job}
    (permitted : actor.permits crew (phase l.history actor) (.insert job)) :
    l.store.find? job.id = none :=
  fresh.absent actor job.id (Actor.drawn_of_insert permitted).1

/-- The identifier that an actor has not used after a call was drawn before, and the call put
nothing in under it. -/
theorem drawn_called {a b : Actor ι κ} {c : Call} {id : Uuid}
    (h : (phase (l.called a c).history b).drawn = some id) :
    (phase l.history b).drawn = some id ∧ (a = b → c.putsNew = false) := by
  rw [history_called, phase_called] at h
  split at h
  next =>
    simp only [Phase.called] at h
    split at h
    next => cases h
    next hnew => exact ⟨h, fun _ => by simpa using hnew⟩
  next hne => exact ⟨h, fun heq => absurd heq hne⟩

theorem drawn_drew {a b : Actor ι κ} {id new : Uuid}
    (h : (phase (l.drew a new).history b).drawn = some id) :
    (a = b ∧ id = new) ∨ (a ≠ b ∧ (phase l.history b).drawn = some id) := by
  rw [history_drew, phase_drew] at h
  split at h
  next heq =>
    rw [Phase.drawn_drew, Option.some.injEq] at h
    exact .inl ⟨heq, h.symm⟩
  next hne => exact .inr ⟨hne, h⟩

theorem drawn_ended {a b : Actor ι κ} {id : Uuid} {ending : Ending}
    (h : (phase (l.ended a ending).history b).drawn = some id) :
    (phase l.history b).drawn = some id := by
  rw [history_ended, phase_ended] at h
  split at h
  next => cases h
  next => exact h

theorem Fresh.called (fresh : l.Fresh) {a : Actor ι κ} {c : Call}
    (permitted : a.permits crew (phase l.history a) c) : (l.called a c).Fresh := by
  have hrecords : JobQueue.records (l.called a c).history =
      JobQueue.records l.history ++ c.buried?.toList := records_append _ _
  -- whoever drew the identifier of what is put in has used it up
  have used {b : Actor ι κ} {id : Uuid} (h : (phase (l.called a c).history b).drawn = some id) :
      ¬ ((∃ job, c = .insert job ∧ job.id = id) ∨ (∃ r, c.buried? = some r ∧ r.id = id)) := by
    intro put
    obtain ⟨hdrawn, hquiet⟩ := drawn_called h
    obtain ⟨hown, hnew⟩ := Actor.drawn_of_putsNew permitted id put
    rw [hquiet (fresh.own a b id hown hdrawn)] at hnew
    cases hnew
  refine
    { unique := Store.uniqueIds_perform fresh.unique c
      jobs := fun job hjob => ?_
      records := fun r hr => ?_
      distinct := ?_
      issued := fun b id h => fresh.issued b id (drawn_called h).1
      absent := fun b id h => ?_
      unrecorded := fun b id h r hr => ?_
      own := fun b b' id h h' => fresh.own b b' id (drawn_called h).1 (drawn_called h').1 }
  · rcases Store.id_mem_or_eq_insert fresh.unique hjob with ⟨old, hold, hid⟩ | rfl
    · rw [← hid]
      exact fresh.jobs old hold
    · exact fresh.issued a _ (Actor.drawn_of_insert permitted).1
  · rw [hrecords, List.mem_append, Option.mem_toList] at hr
    rcases hr with hr | hr
    · exact fresh.records r hr
    · exact fresh.issued a _ (Actor.drawn_of_putsNew permitted _ (.inr ⟨r, hr, rfl⟩)).1
  · rw [hrecords, List.map_append, List.nodup_append]
    refine ⟨fresh.distinct, ?_, ?_⟩
    · cases c.buried? <;> simp
    · rintro x hx y hy rfl
      obtain ⟨r, hr, rfl⟩ := List.mem_map.mp hx
      obtain ⟨r', hr', heq⟩ := List.mem_map.mp hy
      rw [Option.mem_toList] at hr'
      have hdrawn := Actor.drawn_of_putsNew permitted r.id (.inr ⟨r', hr', heq⟩)
      exact fresh.unrecorded a _ hdrawn.1 r hr rfl
  · refine Store.find?_perform_none fresh.unique (fresh.absent b id (drawn_called h).1) ?_
    rintro job rfl heq
    exact used h (.inl ⟨job, rfl, heq⟩)
  · rw [hrecords, List.mem_append, Option.mem_toList] at hr
    rcases hr with hr | hr
    · exact fresh.unrecorded b id (drawn_called h).1 r hr
    · exact fun heq => used h (.inr ⟨r, hr, heq⟩)

theorem Fresh.drew (fresh : l.Fresh) (a : Actor ι κ) {new : Uuid} (hnew : new ∉ l.issued) :
    (l.drew a new).Fresh := by
  have hrecords : JobQueue.records (l.drew a new).history = JobQueue.records l.history :=
    (records_append _ _).trans (List.append_nil _)
  refine
    { unique := fresh.unique
      jobs := fun job hjob => List.mem_cons_of_mem _ (fresh.jobs job hjob)
      records := fun r hr => List.mem_cons_of_mem _ (fresh.records r (hrecords ▸ hr))
      distinct := hrecords ▸ fresh.distinct
      issued := fun b id h => ?_
      absent := fun b id h => ?_
      unrecorded := fun b id h r hr => ?_
      own := fun b b' id h h' => ?_ }
  · rcases drawn_drew h with ⟨-, rfl⟩ | ⟨-, h⟩
    · exact List.mem_cons_self
    · exact List.mem_cons_of_mem _ (fresh.issued b id h)
  · rcases drawn_drew h with ⟨-, rfl⟩ | ⟨-, h⟩
    · refine Store.find?_eq_none_iff.mpr fun job hjob heq => hnew ?_
      rw [← heq]
      exact fresh.jobs job hjob
    · exact fresh.absent b id h
  · rw [hrecords] at hr
    rcases drawn_drew h with ⟨-, rfl⟩ | ⟨-, h⟩
    · rintro rfl
      exact hnew (fresh.records r hr)
    · exact fresh.unrecorded b id h r hr
  · rcases drawn_drew h with ⟨rfl, rfl⟩ | ⟨-, h⟩ <;> rcases drawn_drew h' with ⟨rfl, h''⟩ | ⟨-, h'⟩
    · rfl
    · exact absurd (fresh.issued b' _ h') hnew
    · rw [h''] at h
      exact absurd (fresh.issued b _ h) hnew
    · exact fresh.own b b' id h h'

theorem Fresh.ended (fresh : l.Fresh) (a : Actor ι κ) (ending : Ending) :
    (l.ended a ending).Fresh := by
  have hrecords : JobQueue.records (l.ended a ending).history = JobQueue.records l.history :=
    (records_append _ _).trans (List.append_nil _)
  exact
    { unique := fresh.unique
      jobs := fresh.jobs
      records := fun r hr => fresh.records r (hrecords ▸ hr)
      distinct := hrecords ▸ fresh.distinct
      issued := fun b id h => fresh.issued b id (drawn_ended h)
      absent := fun b id h => fresh.absent b id (drawn_ended h)
      unrecorded := fun b id h r hr => fresh.unrecorded b id (drawn_ended h) r (hrecords ▸ hr)
      own := fun b b' id h h' => fresh.own b b' id (drawn_ended h) (drawn_ended h') }

/-- **Identifiers are given out once** along every course. -/
theorem Course.fresh (h : Course crew l m) (fresh : l.Fresh) : m.Fresh := by
  induction h with
  | refl => exact fresh
  | tail _ hstep ih =>
    cases hstep with
    | called permitted => exact ih.called permitted
    | drew actor hnew => exact ih.drew actor hnew
    | ended => exact ih.ended _ _

theorem Reached.fresh (h : Reached crew l) : l.Fresh :=
  Course.fresh h (fresh_opening Store.uniqueIds_empty)

end Ledger

end JobQueue
