import JobQueue.Pool.Basic
import JobQueue.Proofs.Store.Documents
import JobQueue.Proofs.Text.Digits
import JobQueue.Proofs.Text.Hex

/-!
# Names of workers

The name of a worker is the prefix of its pool, the instance name and the slot, with dashes between
them. A prefix may hold dashes and digits itself, so the name is read from its end: the slot is what
stands behind the last `w`, and the instance name takes eight places before that.

* `Pool.IsInstanceName`: eight hexadecimal digits, as `Pool.instanceOf` gives them.
* `Pool.workerId_eq_iff`: the name tells the prefix, the instance name and the slot.
* `Pool.names_apart`: so no two workers have one name, and none holds a lock of another's.
-/

namespace JobQueue

namespace Pool

variable {handler handler' : Type} {p : Pool handler} {q : Pool handler'} {i j : Nat}
  {w : Worker handler} {w' : Worker handler'}

/-- A name of eight hexadecimal digits, in either case. -/
def IsInstanceName (name : String) : Prop :=
  name.length = 8 ∧ ∀ c ∈ name.toList, (Text.hexValue? c).isSome

/-- Identifiers give such names. -/
theorem isInstanceName_instanceOf (id : Uuid) : IsInstanceName (instanceOf id) := by
  have digits : (Uuid.digits id).length = 32 := Text.length_hexDigits 32 id.toNat
  constructor
  · rw [instanceOf, String.length_ofList, List.length_take, digits]
    rfl
  · intro c hc
    rw [instanceOf, String.toList_ofList] at hc
    obtain ⟨d, small, rfl⟩ := Text.exists_of_mem_hexDigits (List.mem_of_mem_take hc)
    rw [Text.hexValue?_hexDigit d small]
    rfl

theorem toList_workerId (p : Pool handler) (slot : Nat) :
    (p.workerId slot).toList =
      (p.settings.workerPrefix.toList ++ '-' :: (p.instanceId.toList ++ ['-'])) ++
        'w' :: Nat.toDigits 10 slot := by
  have before : "-".toList = ['-'] := rfl
  have between : "-w".toList = ['-', 'w'] := rfl
  simp [workerId, before, between]

/-- A name tells the prefix, the instance name and the slot. -/
theorem workerId_eq_iff (hp : IsInstanceName p.instanceId) (hq : IsInstanceName q.instanceId) :
    p.workerId i = q.workerId j ↔
      p.settings.workerPrefix = q.settings.workerPrefix ∧ p.instanceId = q.instanceId ∧
        i = j := by
  constructor
  · intro same
    have chars := congrArg String.toList same
    rw [toList_workerId, toList_workerId] at chars
    obtain ⟨front, slots⟩ := Text.eq_of_last (Text.notMem_toDigits (by decide))
      (Text.notMem_toDigits (by decide)) chars
    -- both instance names take eight places, whatever the prefixes hold
    have places : ('-' :: (p.instanceId.toList ++ ['-'])).length =
        ('-' :: (q.instanceId.toList ++ ['-'])).length := by
      simp [String.length_toList, hp.1, hq.1]
    obtain ⟨prefixes, rest⟩ := List.append_inj' front places
    have instances := List.append_cancel_right (List.cons.inj rest).2
    exact ⟨String.toList_inj.mp prefixes, String.toList_inj.mp instances,
      Text.toDigits_injective slots⟩
  · rintro ⟨prefixes, instances, rfl⟩
    rw [workerId, workerId, prefixes, instances]

/-- The names of one pool are as many as its settings say, and no two are the same. -/
theorem nodup_workerIds (hp : IsInstanceName p.instanceId) : p.workerIds.Nodup := by
  refine List.Nodup.map ?_ List.nodup_range
  intro i j same
  exact ((workerId_eq_iff hp hp).mp same).2.2

theorem length_workerIds (p : Pool handler) :
    p.workerIds.length = p.settings.concurrency.toNat := by
  rw [workerIds, List.length_map, List.length_range]

/-- Pools with different instance names share no name. -/
theorem workerIds_disjoint (hp : IsInstanceName p.instanceId) (hq : IsInstanceName q.instanceId)
    (apart : p.instanceId ≠ q.instanceId) {id : String} (hid : id ∈ p.workerIds) :
    id ∉ q.workerIds := by
  intro hid'
  obtain ⟨i, -, rfl⟩ := List.mem_map.mp hid
  obtain ⟨j, -, same⟩ := List.mem_map.mp hid'
  exact apart ((workerId_eq_iff hq hp).mp same).2.1.symm

/-- The workers that a start makes have names of the pool. -/
theorem mem_workerIds_of_mem_duties (hw : .work w ∈ p.duties) : w.id ∈ p.workerIds := by
  rw [duties, List.mem_append] at hw
  rcases hw with works | keeps
  · obtain ⟨id, hid, same⟩ := List.mem_map.mp works
    cases same
    exact hid
  · rw [Option.mem_toList, Option.map_eq_some_iff] at keeps
    obtain ⟨days, -, same⟩ := keeps
    cases same

/-- **Names tell workers apart.** Whatever the prefixes of two pools are, their workers have one
name only if the prefix, the instance name and the slot are the same. So the names of one pool are
as many as its settings say, no two of them the same; and between pools of different instance names
no name is shared, so that no worker of one holds a lock that a worker of the other holds. -/
theorem names_apart (hp : IsInstanceName p.instanceId) (hq : IsInstanceName q.instanceId) :
    (∀ i j, p.workerId i = q.workerId j ↔
      p.settings.workerPrefix = q.settings.workerPrefix ∧ p.instanceId = q.instanceId ∧ i = j) ∧
    p.workerIds.length = p.settings.concurrency.toNat ∧
    p.workerIds.Nodup ∧
    (p.instanceId ≠ q.instanceId →
      (∀ id ∈ p.workerIds, id ∉ q.workerIds) ∧
      ∀ w w', .work w ∈ p.duties → .work w' ∈ q.duties → ∀ job : Job,
        job.isLockedBy w.id → ¬job.isLockedBy w'.id) := by
  refine ⟨fun i j => workerId_eq_iff hp hq, length_workerIds p, nodup_workerIds hp, ?_⟩
  intro apart
  refine ⟨fun id hid => workerIds_disjoint hp hq apart hid, ?_⟩
  intro w w' hw hw' job held held'
  have owner := (Job.isLockedBy_iff.mp held).2
  rw [(Job.isLockedBy_iff.mp held').2, Option.some.injEq] at owner
  refine workerIds_disjoint hp hq apart (mem_workerIds_of_mem_duties hw) ?_
  rw [← owner]
  exact mem_workerIds_of_mem_duties hw'

namespace Names

/-- A pool under a plain prefix. -/
def depot : Pool Unit :=
  ⟨{ Settings.standard with workerPrefix := "mail" }, .empty, instanceOf (.ofNat 0)⟩

/-- A pool whose prefix is the name of a worker of the depot. -/
def annex : Pool Unit :=
  ⟨{ Settings.standard with workerPrefix := "mail-00000000-w1" }, .empty,
    instanceOf (.ofNat 0xa000000000000000000000000)⟩

end Names

/-- The annex gives none of the names of the depot, although its prefix is one. -/
theorem names_apart_annex :
    IsInstanceName Names.depot.instanceId ∧ IsInstanceName Names.annex.instanceId ∧
      Names.annex.settings.workerPrefix ∈ Names.depot.workerIds ∧
      Names.depot.workerIds.Nodup ∧
      ∀ id ∈ Names.depot.workerIds, id ∉ Names.annex.workerIds := by
  have hp : IsInstanceName Names.depot.instanceId := isInstanceName_instanceOf _
  have hq : IsInstanceName Names.annex.instanceId := isInstanceName_instanceOf _
  obtain ⟨-, -, distinct, disjoint⟩ := names_apart hp hq
  exact ⟨hp, hq, by decide +kernel, distinct, (disjoint (by decide +kernel)).1⟩

end Pool

end JobQueue
