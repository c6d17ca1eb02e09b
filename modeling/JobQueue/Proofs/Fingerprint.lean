import JobQueue.Fingerprint
import JobQueue.Proofs.Json.Text

/-!
# What a fingerprint is taken of

The text of a submission is its type, a line break and the canonical text of its payload. A type may
hold line breaks itself, but a canonical text never does, so that the last one always ends the type.

* `fingerprintText_eq_iff`: two submissions have the same text exactly when their types are equal
  and their payloads alike.
* `hashed_bytes_eq_iff`: and so for the bytes that are hashed.
-/

namespace JobQueue

variable {s t : String} {p q : Json}

/-- The text of a submission tells the type and the payload up to the order of members. -/
theorem fingerprintText_eq_iff (hp : p.isProper = true) (hq : q.isProper = true) :
    fingerprintText s p = fingerprintText t q ↔ s = t ∧ p.alike q = true := by
  have hp' := Json.isProper_sorted hp
  have hq' := Json.isProper_sorted hq
  have text (s : String) (p : Json) :
      (fingerprintText s p).toList = s.toList ++ '\n' :: p.sorted.write [] := by
    simp [fingerprintText, Json.canonical, Json.text]
  have oneLine {p : Json} (hp : p.isProper = true) : '\n' ∉ p.write [] :=
    Json.newline_notMem_write hp (List.not_mem_nil)
  rw [Json.alike_iff_sorted hp hq]
  constructor
  · intro same
    have chars := congrArg String.toList same
    rw [text, text] at chars
    obtain ⟨types, payloads⟩ := Text.eq_of_last (oneLine hp') (oneLine hq') chars
    have canonical := Json.text_injective hp' hq' (congrArg String.ofList payloads)
    exact ⟨String.toList_inj.mp types, canonical⟩
  · rintro ⟨rfl, same⟩
    rw [fingerprintText, fingerprintText, Json.canonical, Json.canonical, same]

/-! ## Bytes -/

theorem byteArray_loop_eq (bytes : ByteArray) (i : Nat) (taken : List UInt8) :
    ByteArray.toList.loop bytes i taken = taken.reverse ++ bytes.data.toList.drop i := by
  fun_induction ByteArray.toList.loop with
  | case1 i taken inside ih =>
    have inside : i < bytes.data.toList.length := inside
    have head : bytes.get! i = bytes.data.toList[i] := by
      cases bytes
      exact (getElem!_pos _ i inside)
    rw [ih, List.drop_eq_getElem_cons inside, head]
    simp
  | case2 i taken outside =>
    have outside : bytes.data.toList.length ≤ i := Nat.le_of_not_lt outside
    rw [List.drop_eq_nil_of_le outside, List.append_nil]

/-- An array of bytes is known from the list of its bytes. -/
theorem byteArray_toList_injective : Function.Injective ByteArray.toList := by
  intro a b same
  have data (bytes : ByteArray) : bytes.toList = bytes.data.toList := by
    rw [ByteArray.toList, byteArray_loop_eq]
    rfl
  rw [data, data] at same
  exact ByteArray.ext (Array.toList_inj.mp same)

/-- What is hashed tells the type and the payload up to the order of members. In arrays the order
counts, a whole number is no fraction, and a zero keeps its sign. -/
theorem hashed_bytes_eq_iff (hp : p.isProper = true) (hq : q.isProper = true) :
    (fingerprintText s p).toUTF8.toList = (fingerprintText t q).toUTF8.toList ↔
      s = t ∧ p.alike q = true := by
  rw [byteArray_toList_injective.eq_iff, String.toUTF8_eq_toByteArray,
    String.toUTF8_eq_toByteArray, String.toByteArray_inj, fingerprintText_eq_iff hp hq]

namespace Parcel

/-- A zero of either sign. -/
def zero (negative : Bool) : Json := .number (.float (.finite negative ⟨0, by decide⟩))

/-- A payload with a zero in an array within. -/
def payload (negative : Bool) : Json :=
  .object [("b", .object [("y", .array [.ofNat 1, zero negative]), ("x", .null)]),
    ("a", .string "q\"uote\n")]

/-- The same payload with its members in another order at both depths. -/
def reordered (negative : Bool) : Json :=
  .object [("a", .string "q\"uote\n"),
    ("b", .object [("x", .null), ("y", .array [.ofNat 1, zero negative])])]

end Parcel

theorem hashed_bytes_eq_iff_parcel :
    (∀ negative, (Parcel.payload negative).isProper = true ∧
      (Parcel.reordered negative).isProper = true) ∧
    (fingerprintText "two\nlines" (Parcel.payload true)).toUTF8.toList =
      (fingerprintText "two\nlines" (Parcel.reordered true)).toUTF8.toList ∧
    (fingerprintText "two\nlines" (Parcel.payload true)).toUTF8.toList ≠
      (fingerprintText "two\nlines" (Parcel.reordered false)).toUTF8.toList := by
  have proper : ∀ negative, (Parcel.payload negative).isProper = true ∧
      (Parcel.reordered negative).isProper = true := by decide
  refine ⟨proper, ?_, ?_⟩
  · exact (hashed_bytes_eq_iff (proper true).1 (proper true).2).mpr ⟨rfl, by decide⟩
  · intro same
    exact absurd ((hashed_bytes_eq_iff (proper true).1 (proper false).2).mp same).2 (by decide)

end JobQueue
