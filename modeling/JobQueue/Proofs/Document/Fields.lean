import JobQueue.Document.Json
import JobQueue.Proofs.Time.Text
import JobQueue.Proofs.Uuid

/-!
# Fields, written and read

What is written into the members of an object is found there again, one field after the other in
the order of declaration.

* `string?_string` and the like: single values are read back.
* `Finds`: what a reader finds among members. `Finds.bind` takes a record apart at its fields,
  `finds_field` and `finds_optional` say what a field gives.
* `record?_object`: what a reader finds is the record.
-/

namespace JobQueue.Document

variable {α β : Type} {members : List (String × Json)} {name : String} {a : α}

/-! ## Single values -/

theorem whole?_of_held {held : Int → Bool} {n : Int} (h : held n = true) :
    whole? held (Json.ofInt n) = some n := if_pos h

theorem uint32?_ofUInt32 (n : UInt32) : uint32? (ofUInt32 n) = some n := by
  have small : n.toNat < Word.size 32 := n.toNat_lt
  have held : Word.holds 32 n.toNat = true := by
    simp only [Word.holds, decide_eq_true_eq]
    omega
  rw [uint32?, ofUInt32, Json.ofNat, ← Json.ofInt, whole?_of_held held, Option.map_some,
    Int.toNat_natCast, UInt32.ofNat_toNat]

theorem uint64?_ofUInt64 (n : UInt64) : uint64? (ofUInt64 n) = some n := by
  have small : n.toNat < Word.size 64 := n.toNat_lt
  have held : Word.holds 64 n.toNat = true := by
    simp only [Word.holds, decide_eq_true_eq]
    omega
  rw [uint64?, ofUInt64, Json.ofNat, ← Json.ofInt, whole?_of_held held, Option.map_some,
    Int.toNat_natCast, UInt64.ofNat_toNat]

theorem int32?_ofInt (n : Int32) : int32? (Json.ofInt n.toInt) = some n := by
  have held : Word.holdsSigned 32 n.toInt = true :=
    decide_eq_true ⟨n.le_toInt, n.toInt_lt⟩
  rw [int32?, whole?_of_held held, Option.map_some, Int32.ofInt_toInt]

theorem string?_string (s : String) : string? (.string s) = some s := rfl

theorem json?_eq (j : Json) : json? j = some j := rfl

theorem uuid?_ofUuid (u : Uuid) : uuid? (ofUuid u) = some u := by
  rw [uuid?, ofUuid, string?_string, Option.bind_some, u.parse?_text]

theorem instant?_ofInstant (t : Instant) : instant? (ofInstant t) = some t := by
  rw [instant?, ofInstant, string?_string, Option.bind_some, t.parse?_text]

/-! ## Readers -/

/-- A reader finds this among the members of an object. -/
def Finds (reader : RecordReader Json α) (members : List (String × Json)) (a : α) : Prop :=
  reader (.named members) = some (a, .named members)

theorem finds_pure (a : α) : Finds (pure a) members a := rfl

/-- A reader goes on with what its first part finds. -/
theorem Finds.bind {reader : RecordReader Json α} {next : α → RecordReader Json β} {b : β}
    (first : Finds reader members a) (rest : Finds (next a) members b) :
    Finds (reader >>= next) members b := by
  show (reader (.named members)).bind _ = _
  rw [first]
  exact rest

theorem finds_field {read : Json → Option α} {x : Json} (found : Json.lookup name members = some x)
    (reads : read x = some a) : Finds (field name read) members a := by
  have taken : Finds (takeField name) members (some x) := by
    rw [Finds, takeField, ← Json.lookup, found]
  refine taken.bind ?_
  show (read x).bind _ = _
  rw [reads]
  rfl

/-- A field that may be absent gives its value, or nothing if that is null. -/
theorem finds_optional {read : Json → Option α} {x : Json} {value : Option α}
    (found : Json.lookup name members = some x) (reads : nullable isNull read x = some value) :
    Finds (optional name read) members value := by
  have taken : Finds (takeField name) members (some x) := by
    rw [Finds, takeField, ← Json.lookup, found]
  have asked : Finds (get : RecordReader Json (Source Json)) members (.named members) := rfl
  refine taken.bind (asked.bind ?_)
  show (if isNull x then pure none else _ : RecordReader Json (Option α)) (.named members) = _
  rw [nullable] at reads
  by_cases null : isNull x = true
  · rw [if_pos null, Option.some.injEq] at reads
    rw [if_pos null, ← reads]
    rfl
  · rw [if_neg null] at reads
    rw [if_neg null]
    show ((read x).map some).bind _ = _
    rw [reads]
    rfl

/-- What was written as an optional value is read back, if it is never null. -/
theorem nullable_ofOption {read : Json → Option α} {write : α → Json} {value : Option α}
    (visible : ∀ a, isNull (write a) = false) (reads : ∀ a, read (write a) = some a) :
    nullable isNull read (Json.ofOption write value) = some value := by
  cases value with
  | none => rfl
  | some a =>
    rw [nullable, Json.ofOption, visible, reads]
    rfl

/-- What a reader finds is the record. -/
theorem record?_object {reader : RecordReader Json α} (h : Finds reader members a) :
    record? reader (.object members) = some a := by
  unfold record?
  dsimp only [Option.bind_some]
  rw [h]
  rfl

end JobQueue.Document
