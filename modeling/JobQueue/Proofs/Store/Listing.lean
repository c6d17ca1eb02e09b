import JobQueue.Proofs.Store.ClaimOrder
import Mathlib.Order.OrderDual

/-!
# Listings

Jobs and dead-letter records are listed the newest first, those of one time by identifier. As
identifiers are different there is one such order, and every listing is a part of it: jobs are listed
from its beginning, and records page by page. The order in which a store holds its documents makes
no difference.

* `Instant.place`, `Job.place` and `DeadLetter.place`: where a document stands in listings, and
  `Store.listedBefore_iff` and `Store.recordListedBefore_iff`: listings go by it.
* `Store.jobOrder` and `Store.recordOrder`: what matches a filter, in the order of listings.
* `Store.Paged`: what the pages of a filter make up, and `Store.listings_in_order`: that they do.
-/

namespace JobQueue

/-! ## Places -/

/-- Where a document stands in listings, with the later one of two above the other: by time, and by
identifier at one time. -/
def Instant.place (t : Instant) (id : Uuid) : (ℤ ×ₗ ℕ) ×ₗ ℕ := toLex (t.key, id.toNat)

theorem Instant.place_le_iff {t u : Instant} {a b : Uuid} :
    t.place a ≤ u.place b ↔ t < u ∨ t = u ∧ a.toNat ≤ b.toNat := by
  rw [place, place, Prod.Lex.toLex_le_toLex, key_lt_key, key_injective.eq_iff]

/-- Documents with different identifiers have different places. -/
theorem Instant.id_of_place {t u : Instant} {a b : Uuid} (h : t.place a = u.place b) : a = b := by
  obtain ⟨-, h⟩ := Prod.mk.inj (toLex.injective h)
  exact congrArg Uuid.mk (BitVec.toNat_inj.mp h)

/-- Where a job stands in listings. -/
def Job.place (job : Job) : (ℤ ×ₗ ℕ) ×ₗ ℕ := job.createdAt.place job.id

/-- Where a record stands in listings. -/
def DeadLetter.place (record : DeadLetter) : (ℤ ×ₗ ℕ) ×ₗ ℕ := record.movedAt.place record.id

/-- The filter for one of its pages, counted from zero. -/
def DeadLetterFilter.page (filter : DeadLetterFilter) (number : Nat) : DeadLetterFilter :=
  { filter with offset := some (UInt64.ofNat (number * filter.effectiveLimit)) }

/-- The number of records before a page is one that can be asked for. -/
def DeadLetterFilter.Reaches (filter : DeadLetterFilter) (number : Nat) : Prop :=
  number * filter.effectiveLimit < 2 ^ 64

instance (filter : DeadLetterFilter) (number : Nat) : Decidable (filter.Reaches number) :=
  inferInstanceAs (Decidable (number * filter.effectiveLimit < 2 ^ 64))

namespace Store

variable {s t : Store} {filter : DeadLetterFilter}

/-! ## The orders of listings -/

/-- Jobs are listed by their places, the last place first. -/
theorem listedBefore_iff {a b : Job} : listedBefore a b = true ↔ b.place ≤ a.place := by
  simp only [listedBefore, Job.place, Instant.place_le_iff, Bool.or_eq_true, Bool.and_eq_true,
    decide_eq_true_eq, eq_comm (a := a.createdAt)]

/-- Records are listed by their places, the last place first. -/
theorem recordListedBefore_iff {a b : DeadLetter} :
    recordListedBefore a b = true ↔ b.place ≤ a.place := by
  simp only [recordListedBefore, DeadLetter.place, Instant.place_le_iff, Bool.or_eq_true,
    Bool.and_eq_true, decide_eq_true_eq, eq_comm (a := a.movedAt)]

/-- The jobs that match a filter, the newest first. -/
def jobOrder (s : Store) (filter : JobFilter) : List Job :=
  sortedBy (fun job => OrderDual.toDual job.place) (s.jobs.filter filter.accepts)

/-- The records that match a filter, the newest first. -/
def recordOrder (s : Store) (filter : DeadLetterFilter) : List DeadLetter :=
  sortedBy (fun record => OrderDual.toDual record.place) (s.deadLetters.filter filter.accepts)

/-- Documents that are told apart by their identifiers have different places. -/
theorem nodup_places {α : Type} {id : α → Uuid} (time : α → Instant) {documents : List α}
    (unique : (documents.map id).Nodup) (accepts : α → Bool) :
    ((documents.filter accepts).map fun d => OrderDual.toDual ((time d).place (id d))).Nodup := by
  have distinct : (documents.filter accepts).Nodup := (List.Nodup.of_map _ unique).filter _
  refine distinct.map_on ?_
  intro a ha b hb same
  exact List.inj_on_of_nodup_map unique (List.mem_of_mem_filter ha) (List.mem_of_mem_filter hb)
    (Instant.id_of_place (OrderDual.toDual.injective same))

/-- The places of the jobs that match a filter decrease. -/
theorem jobOrder_pairwise (unique : s.UniqueIds) (filter : JobFilter) :
    ((s.jobOrder filter).map Job.place).Pairwise (· > ·) :=
  List.pairwise_map.mpr (sortedBy_pairwise (nodup_places Job.createdAt unique filter.accepts))

theorem jobOrder_eq_of_perm (unique : s.UniqueIds) (perm : t.jobs.Perm s.jobs) (filter : JobFilter) :
    t.jobOrder filter = s.jobOrder filter :=
  sortedBy_eq_of_perm (nodup_places Job.createdAt unique filter.accepts) (perm.filter _)

/-- The places of the records that match a filter decrease. -/
theorem recordOrder_pairwise (unique : (s.deadLetters.map DeadLetter.id).Nodup)
    (filter : DeadLetterFilter) :
    ((s.recordOrder filter).map DeadLetter.place).Pairwise (· > ·) :=
  List.pairwise_map.mpr (sortedBy_pairwise (nodup_places DeadLetter.movedAt unique filter.accepts))

theorem recordOrder_eq_of_perm (unique : (s.deadLetters.map DeadLetter.id).Nodup)
    (perm : t.deadLetters.Perm s.deadLetters) (filter : DeadLetterFilter) :
    t.recordOrder filter = s.recordOrder filter :=
  sortedBy_eq_of_perm (nodup_places DeadLetter.movedAt unique filter.accepts) (perm.filter _)

theorem list_eq (s : Store) (filter : JobFilter) :
    s.list filter = (s.jobOrder filter).take filter.effectiveLimit := by
  rw [list, mergeSort_eq_sortedBy fun job => OrderDual.toDual job.place, jobOrder]
  intro a b
  exact listedBefore_iff

theorem listDeadLetters_eq (s : Store) (filter : DeadLetterFilter) :
    s.listDeadLetters filter =
      ((s.recordOrder filter).drop filter.effectiveOffset).take filter.effectiveLimit := by
  rw [listDeadLetters, mergeSort_eq_sortedBy fun r => OrderDual.toDual r.place, recordOrder]
  intro a b
  exact recordListedBefore_iff

/-! ## Pages -/

/-- The first pages of a filter, one after the other. -/
def firstPages (s : Store) (filter : DeadLetterFilter) (count : Nat) : List DeadLetter :=
  ((List.range count).map fun number => s.listDeadLetters (filter.page number)).flatten

/-- The pages of a filter make up these records. -/
structure Paged (s : Store) (filter : DeadLetterFilter) (order : List DeadLetter) : Prop where
  /-- Each page is a page of these. -/
  page : ∀ number, filter.Reaches number →
    s.listDeadLetters (filter.page number) = pageOf filter.effectiveLimit order number
  /-- The first pages are the beginning. -/
  joined : ∀ count, (∀ number < count, filter.Reaches number) →
    s.firstPages filter count = order.take (count * filter.effectiveLimit)
  /-- The pages up to the last one with a record in it are everything. -/
  whole : order.length ≤ 2 ^ 64 → ∃ count, s.firstPages filter count = order ∧
    ∀ number < count, filter.Reaches number ∧ s.listDeadLetters (filter.page number) ≠ []
  /-- A page before one with a record in it is full. -/
  full : ∀ number later, number < later → filter.Reaches later →
    s.listDeadLetters (filter.page later) ≠ [] →
    (s.listDeadLetters (filter.page number)).length = filter.effectiveLimit
  /-- A page is empty from the end on. -/
  past : ∀ number, filter.Reaches number → (s.listDeadLetters (filter.page number) = [] ↔
    order.length ≤ number * filter.effectiveLimit)

theorem listDeadLetters_page {number : Nat} (reached : filter.Reaches number) :
    s.listDeadLetters (filter.page number) =
      pageOf filter.effectiveLimit (s.recordOrder filter) number := by
  have offset : (filter.page number).effectiveOffset = number * filter.effectiveLimit := by
    show (UInt64.ofNat _).toNat = _
    rw [UInt64.toNat_ofNat', Nat.mod_eq_of_lt reached]
  rw [listDeadLetters_eq, offset]
  rfl

theorem firstPages_eq {count : Nat} (reached : ∀ number < count, filter.Reaches number) :
    s.firstPages filter count =
      ((List.range count).map (pageOf filter.effectiveLimit (s.recordOrder filter))).flatten := by
  rw [firstPages]
  congr 1
  refine List.map_congr_left ?_
  intro number mem
  exact listDeadLetters_page (reached number (List.mem_range.mp mem))

/-- The pages of a filter make up the records that match it. -/
theorem paged_recordOrder (s : Store) (some : 1 ≤ filter.effectiveLimit) :
    s.Paged filter (s.recordOrder filter) where
  page := by
    intro number reached
    exact listDeadLetters_page reached
  joined := by
    intro count reached
    rw [firstPages_eq reached, flatten_pages]
  whole := by
    intro fits
    have inside : ∀ number < pageCount filter.effectiveLimit (s.recordOrder filter),
        number * filter.effectiveLimit < (s.recordOrder filter).length := by
      intro number before
      exact (lt_pageCount_iff some).mp before
    have reached : ∀ number < pageCount filter.effectiveLimit (s.recordOrder filter),
        filter.Reaches number := by
      intro number before
      exact (inside number before).trans_le fits
    refine ⟨_, ?_, fun number before => ⟨reached number before, ?_⟩⟩
    · rw [firstPages_eq reached, flatten_all_pages some]
    · rw [listDeadLetters_page (reached number before), Ne, pageOf_eq_nil_iff some]
      exact Nat.not_le.mpr (inside number before)
  full := by
    intro number later before reached later_some
    have reached' : filter.Reaches number :=
      (Nat.mul_le_mul_right _ before.le).trans_lt reached
    rw [listDeadLetters_page reached] at later_some
    rw [listDeadLetters_page reached']
    exact length_pageOf_of_lt some before later_some
  past := by
    intro number reached
    rw [listDeadLetters_page reached]
    exact pageOf_eq_nil_iff some

/-- **Listings.** Take any store in which no two jobs and no two records have the same identifier.
The records that match a filter have one order in which they stand the newest first, and the pages of
the filter make it up, without a record lost or repeated. The jobs that match a filter have one such
order, too, and they are listed from its beginning. Neither depends on the order in which the store
holds its records and jobs. -/
theorem listings_in_order (uniqueRecords : (s.deadLetters.map DeadLetter.id).Nodup)
    (uniqueJobs : s.UniqueIds) :
    (∀ filter : DeadLetterFilter, 1 ≤ filter.effectiveLimit → ∃ order : List DeadLetter,
      order.Perm (s.deadLetters.filter filter.accepts) ∧
      (order.map DeadLetter.place).Pairwise (· > ·) ∧
      ∀ t : Store, t.deadLetters.Perm s.deadLetters → t.Paged filter order) ∧
    (∀ filter : JobFilter, ∃ order : List Job,
      order.Perm (s.jobs.filter filter.accepts) ∧ (order.map Job.place).Pairwise (· > ·) ∧
      ∀ t : Store, t.jobs.Perm s.jobs → t.list filter = order.take filter.effectiveLimit) := by
  constructor
  · intro filter some
    refine ⟨s.recordOrder filter, sortedBy_perm .., recordOrder_pairwise uniqueRecords filter, ?_⟩
    intro t perm
    rw [← recordOrder_eq_of_perm uniqueRecords perm]
    exact t.paged_recordOrder some
  · intro filter
    refine ⟨s.jobOrder filter, sortedBy_perm .., jobOrder_pairwise uniqueJobs filter, ?_⟩
    intro t perm
    rw [list_eq, jobOrder_eq_of_perm uniqueJobs perm]

/-! ### Three letters

Two letters are given up at one time, and a third one later. They are listed on two pages.
-/

namespace Desk

def records : List DeadLetter :=
  [.ofJob (.ofNat 1) Tray.letter .epoch, .ofJob (.ofNat 2) Tray.letter .epoch,
    .ofJob (.ofNat 3) Tray.urgent .last]

def store : Store := ⟨[Tray.letter, Tray.urgent], [], records⟩

def pairs : DeadLetterFilter := ⟨none, some 2, none⟩

end Desk

theorem listings_in_order_desk : ∃ order : List DeadLetter, order.Perm Desk.records ∧
    (order.map DeadLetter.place).Pairwise (· > ·) ∧ Desk.store.firstPages Desk.pairs 2 = order := by
  have uniqueJobs : Desk.store.UniqueIds := by
    unfold UniqueIds
    decide
  obtain ⟨records, -⟩ := listings_in_order (s := Desk.store) (by decide) uniqueJobs
  obtain ⟨order, perm, sorted, paged⟩ := records Desk.pairs (by decide)
  refine ⟨order, perm, sorted, ?_⟩
  rw [(paged _ (.refl _)).joined 2 (by decide)]
  exact List.take_of_length_le (perm.length_eq.trans_le (by decide))

end Store

end JobQueue
