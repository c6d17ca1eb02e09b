import JobQueue.Text.Inspect

/-!
# The registry of handlers

A registry gives each job type at most one handler: the one that was registered for it last. What a
handler is, the registry does not ask; a handler may also stand under several types.
-/

namespace JobQueue

/-- Handlers by job type. No type stands in the list twice. -/
structure Registry (handler : Type) where
  entries : List (String × handler)

namespace Registry

variable {handler : Type}

/-- No handlers. -/
def empty : Registry handler := ⟨[]⟩

/-- The handler of a type. -/
def find? (r : Registry handler) (jobType : String) : Option handler :=
  (r.entries.find? fun e => e.1 = jobType).map (·.2)

/-- Whether a type has a handler. -/
def contains (r : Registry handler) (jobType : String) : Bool := (r.find? jobType).isSome

/-- The entries with a handler put under a type, in the place of the one that was there. -/
def put (jobType : String) (h : handler) : List (String × handler) → List (String × handler)
  | [] => [(jobType, h)]
  | e :: rest => if e.1 = jobType then (jobType, h) :: rest else e :: put jobType h rest

/-- Registers a handler for a type. An earlier one is replaced. -/
def register (r : Registry handler) (jobType : String) (h : handler) : Registry handler :=
  ⟨put jobType h r.entries⟩

/-- Registers the handler of one type for another one as well, and answers whether there is one. -/
def share (r : Registry handler) (jobType source : String) : Bool × Registry handler :=
  match r.find? source with
  | some h => (true, r.register jobType h)
  | none => (false, r)

/-- The number of types with a handler. -/
def size (r : Registry handler) : Nat := r.entries.length

/-- Whether no type has a handler. -/
def isEmpty (r : Registry handler) : Bool := r.entries.isEmpty

/-- The types with a handler, sorted. -/
def jobTypes (r : Registry handler) : List String :=
  (r.entries.map (·.1)).mergeSort fun a b => decide (a ≤ b)

/-- The list of types for inspection. -/
def inspectTypes (r : Registry handler) : String := Text.inspectList (r.jobTypes.map Text.inspect)

/-- The view for inspection. -/
def inspect (r : Registry handler) : String :=
  Text.inspectRecord "HandlerRegistry" [("job_types", r.inspectTypes)]

/-! ## Looking up after registering -/

theorem find?_put (jobType other : String) (h : handler) (entries : List (String × handler)) :
    ((put jobType h entries).find? fun e => e.1 = other).map (·.2) =
      if jobType = other then some h else (entries.find? fun e => e.1 = other).map (·.2) := by
  induction entries with
  | nil => by_cases hn : jobType = other <;> simp [put, hn]
  | cons e rest ih =>
    by_cases he : e.1 = jobType
    · by_cases hn : jobType = other <;> simp [put, he, hn]
    · by_cases hn : e.1 = other
      · have hj : ¬ jobType = other := fun hj => he (hn.trans hj.symm)
        simp [put, hn, hj, Ne.symm hj]
      · simpa [put, he, hn] using ih

/-- The handler registered last under a type is the one that is found, and no other type changes. -/
theorem find?_register (r : Registry handler) (jobType other : String) (h : handler) :
    (r.register jobType h).find? other = if jobType = other then some h else r.find? other :=
  find?_put jobType other h r.entries

end Registry

end JobQueue
