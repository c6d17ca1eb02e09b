import JobQueue.Json.Parser
import JobQueue.Json.Printer
import JobQueue.Proofs.Binary64.Layout
import JobQueue.Proofs.Json.Alike
import JobQueue.Proofs.Text.Hex

/-!
# A value is known from its text

A text that begins with a value begins with one value only, and the value ends where it ends: every
piece of the text says itself where it stops, but for a number, which stops before the first
character that no number has.

* `Json.readString_writeString`: a string that is written is read back, with what follows it.
* `Json.numberText_injective`: proper numbers with one text are one number, of one kind and sign.
* `Json.write_injective`: a proper value and what follows it are known from the text.
-/

namespace JobQueue.Json

/-! ## Strings -/

variable {c : Char} {rest rest' : List Char}

/-- One character of a string is read back. -/
theorem readChars_escapeChar (fuel : Nat) (gathered : List Char) (c : Char) (rest : List Char) :
    readChars (fuel + 1) gathered (escapeChar c ++ rest) = readChars fuel (c :: gathered) rest := by
  unfold escapeChar
  split
  · subst c; simp [readChars, simpleEscape?]
  split
  · subst c; simp [readChars, simpleEscape?]
  split
  · subst c; simp [readChars, simpleEscape?]
  split
  · subst c; simp [readChars, simpleEscape?]
  split
  · subst c; simp [readChars, simpleEscape?]
  split
  · subst c; simp [readChars, simpleEscape?]
  split
  · subst c; simp [readChars, simpleEscape?]
  split
  · rename_i control
    have unit : readUnit (Text.hexDigits 4 c.toNat ++ rest) = some (c.toNat, rest) := by
      have digits := Text.hexNumber?_hexDigits 4 c.toNat
      rw [Nat.mod_eq_of_lt (Nat.lt_trans control (by decide))] at digits
      simp only [Text.hexDigits, List.range, List.range.loop, List.reverse_cons, List.reverse_nil,
        List.nil_append, List.cons_append, List.map_cons, List.map_nil] at digits ⊢
      rw [readUnit, digits]
      rfl
    have read : readEscapedUnit (Text.hexDigits 4 c.toNat ++ rest) = some (c, rest) := by
      have low : ¬(0xD800 ≤ c.toNat ∧ c.toNat < 0xDC00) := by omega
      have high : ¬(0xDC00 ≤ c.toNat ∧ c.toNat < 0xE000) := by omega
      simp [readEscapedUnit, unit, low, high, Char.ofNat_toNat]
    simp [readChars, read]
  · simp_all [readChars]

theorem readChars_flatMap (gathered chars rest : List Char) {fuel : Nat} (h : chars.length < fuel) :
    readChars fuel gathered (chars.flatMap escapeChar ++ '"' :: rest) =
      some (String.ofList (gathered.reverse ++ chars), rest) := by
  induction chars generalizing gathered fuel with
  | nil =>
    obtain ⟨fuel, rfl⟩ := Nat.exists_eq_add_one_of_ne_zero h.ne'
    simp [readChars]
  | cons c chars ih =>
    obtain ⟨fuel, rfl⟩ := Nat.exists_eq_add_one_of_ne_zero (Nat.ne_zero_of_lt h)
    rw [List.flatMap_cons, List.append_assoc, readChars_escapeChar,
      ih (c :: gathered) (Nat.lt_of_succ_lt_succ h)]
    simp

/-- A string that is written is read back, with what follows it. -/
theorem readString_writeString (s : String) (rest : List Char) {fuel : Nat}
    (h : s.toList.length < fuel) : readString fuel (writeString s rest) = some (s, rest) := by
  rw [writeString, readString, readChars_flatMap [] _ _ h]
  simp

/-- A string and what follows it are known from the text. -/
theorem writeString_injective {s t : String} (h : writeString s rest = writeString t rest') :
    s = t ∧ rest = rest' := by
  have enough : s.toList.length < s.toList.length + t.toList.length + 1 := by omega
  have first := readString_writeString s rest enough
  rw [h, readString_writeString t rest' (by omega)] at first
  simpa [eq_comm] using first

/-! ## Numbers -/

/-- Whether a character can stand in the text of a number. -/
def isNumeral (c : Char) : Bool := Text.isDigit c || c = '+' || c = '-' || c = '.' || c = 'e'

/-- The text of a finite double: the text of its magnitude, behind a minus when it is negative. -/
theorem numberText_float (negative : Bool) (ordinal : Fin Binary64.ordinalBound) :
    numberText (.float (.finite negative ordinal)) =
      (if negative then ['-'] else []) ++ Binary64.Layout.json.magnitude ordinal := by
  cases negative <;> simp [numberText, Binary64.write]

/-- The text of a whole number: digits, behind a minus when it is negative. -/
theorem numberText_int (n : Int) :
    numberText (.int n) = (if n < 0 then ['-'] else []) ++ Nat.toDigits 10 n.natAbs := by
  rw [numberText]
  split <;> rfl

/-- Digits and the text of a magnitude begin with no minus, so that a minus in front is known. -/
theorem sign_injective {a b : Bool} {s t : List Char} (hs : '-' ∉ s.head?) (ht : '-' ∉ t.head?)
    (h : (if a then ['-'] else []) ++ s = (if b then ['-'] else []) ++ t) : a = b ∧ s = t := by
  cases a <;> cases b
  · exact ⟨rfl, h⟩
  · have h : s = '-' :: t := h
    exact absurd (by simp [h]) hs
  · have h : '-' :: s = t := h
    exact absurd (by simp [← h]) ht
  · exact ⟨rfl, (List.cons.inj h).2⟩

theorem minus_not_head_toDigits (n : Nat) : '-' ∉ (Nat.toDigits 10 n).head? := by
  intro h
  have := Text.isDigit_of_mem_toDigits (List.mem_of_mem_head? h)
  exact absurd this (by decide)

theorem minus_not_head_magnitude (o : Nat) : '-' ∉ (Binary64.Layout.json.magnitude o).head? := by
  obtain ⟨mantissa, exponent, text, first, last⟩ := Binary64.magnitude_shape o
  rw [text]
  cases mantissa with
  | nil =>
    rcases last with ⟨-, point⟩ | ⟨rest, rfl, -⟩
    · exact absurd point (by simp)
    · simp
  | cons c mantissa =>
    intro h
    have same : c = '-' := by simpa using h
    rcases first c List.mem_cons_self with digit | point
    · rw [same] at digit
      exact absurd digit (by decide)
    · rw [same] at point
      exact absurd point (by decide)

/-- A whole number has neither point nor exponent, and the text of a double has one of them. -/
theorem numberText_int_ne_float (n : Int) (negative : Bool) (ordinal : Fin Binary64.ordinalBound) :
    numberText (.int n) ≠ numberText (.float (.finite negative ordinal)) := by
  intro h
  have plain : ∀ c ∈ numberText (.int n), c ≠ '.' ∧ c ≠ 'e' := by
    intro c hc
    rw [numberText_int] at hc
    rcases List.mem_append.mp hc with minus | digit
    · have : c = '-' := by split at minus <;> simp_all
      subst this
      decide
    · have digit := Text.isDigit_of_mem_toDigits digit
      constructor <;> rintro rfl <;> exact absurd digit (by decide)
  rw [h, numberText_float] at plain
  obtain ⟨mantissa, exponent, text, -, last⟩ := Binary64.magnitude_shape ordinal
  rw [text] at plain
  rcases last with ⟨-, point⟩ | ⟨rest, rfl, -⟩
  · exact (plain '.' (by simp [point])).1 rfl
  · exact (plain 'e' (by simp)).2 rfl

/-- Proper numbers with one text are one number, of one kind and sign. -/
theorem numberText_injective {m n : Number} (hm : (Json.number m).isProper = true)
    (hn : (Json.number n).isProper = true) (h : numberText m = numberText n) : m = n := by
  match m, n with
  | .int m, .int n =>
    rw [numberText_int, numberText_int] at h
    have split := sign_injective (a := decide (m < 0)) (b := decide (n < 0))
      (minus_not_head_toDigits _) (minus_not_head_toDigits _) (by simpa using h)
    have size := Text.toDigits_injective split.2
    have sign := decide_eq_decide.mp split.1
    rw [Number.int.injEq]
    omega
  | .float (.finite s o), .float (.finite t p) =>
    rw [numberText_float, numberText_float] at h
    obtain ⟨sign, magnitude⟩ :=
      sign_injective (minus_not_head_magnitude o) (minus_not_head_magnitude p) h
    rw [sign, Fin.ext (Binary64.magnitude_injective magnitude)]
  | .int m, .float (.finite t p) => exact absurd h (numberText_int_ne_float m t p)
  | .float (.finite s o), .int n => exact absurd h.symm (numberText_int_ne_float n s o)
  | .float .nan, _ | .float (.infinite _), _ =>
    exact absurd hm (by simp [isProper, Binary64.isFinite])
  | _, .float .nan | _, .float (.infinite _) =>
    exact absurd hn (by simp [isProper, Binary64.isFinite])

/-- The text of a number is made of the characters of numbers. -/
theorem isNumeral_of_mem_numberText {n : Number} (hn : (Json.number n).isProper = true)
    (h : c ∈ numberText n) : isNumeral c = true := by
  match n with
  | .int n =>
    rw [numberText_int] at h
    rcases List.mem_append.mp h with minus | digit
    · have : c = '-' := by split at minus <;> simp_all
      simp [isNumeral, this]
    · simp [isNumeral, Text.isDigit_of_mem_toDigits digit]
  | .float (.finite s o) =>
    obtain ⟨mantissa, exponent, text, first, last⟩ := Binary64.magnitude_shape o
    rw [numberText_float, text] at h
    rcases List.mem_append.mp h with minus | h
    · have : c = '-' := by split at minus <;> simp_all
      simp [isNumeral, this]
    · rcases List.mem_append.mp h with inside | inside
      · rcases first c inside with digit | point <;> simp_all [isNumeral]
      · rcases last with ⟨rfl, -⟩ | ⟨rest, rfl, only⟩
        · exact absurd inside (by simp)
        · rcases List.mem_cons.mp inside with e | inside
          · simp [isNumeral, e]
          · rcases only c inside with digit | minus | plus <;> simp_all [isNumeral]
  | .float .nan | .float (.infinite _) => exact absurd hn (by simp [isProper, Binary64.isFinite])

theorem numberText_ne_nil {n : Number} (hn : (Json.number n).isProper = true) :
    numberText n ≠ [] := by
  match n with
  | .int n => simp [numberText_int, Nat.toDigits_ne_nil]
  | .float (.finite s o) =>
    obtain ⟨mantissa, exponent, text, -, last⟩ := Binary64.magnitude_shape o
    rw [numberText_float, text]
    rcases last with ⟨-, point⟩ | ⟨rest, rfl, -⟩
    · have := List.ne_nil_of_mem point
      simp [this]
    · simp
  | .float .nan | .float (.infinite _) => exact absurd hn (by simp [isProper, Binary64.isFinite])

/-! ## Values -/

/-- What follows a value does not go on with a number. -/
def Breaks (rest : List Char) : Prop := ∀ c ∈ rest.head?, isNumeral c = false

theorem breaks_nil : Breaks [] := by simp [Breaks]

theorem breaks_cons (h : isNumeral c = false) (rest : List Char) : Breaks (c :: rest) := by
  simp [Breaks, h]

/-- The character that the text of a value begins with; a number has no one of its own. -/
def opening : Json → Option Char
  | .null => some 'n'
  | .bool true => some 't'
  | .bool false => some 'f'
  | .number _ => none
  | .string _ => some '"'
  | .array _ => some '['
  | .object _ => some '\x7b'

/-- What a text begins with, unless it is a number, says which kind of value it is. -/
theorem filter_head_write {p : Json} (hp : p.isProper = true) (rest : List Char) :
    ((p.write rest).head?.filter fun c => !isNumeral c) = p.opening := by
  cases p with
  | number n =>
    obtain ⟨c, text, written⟩ := List.exists_cons_of_ne_nil (numberText_ne_nil hp)
    have numeral : isNumeral c = true := isNumeral_of_mem_numberText hp (by simp [written])
    simp [write, written, numeral, opening]
  | bool b => cases b <;> rfl
  | _ => rfl

theorem opening_eq {p q : Json} (hp : p.isProper = true) (hq : q.isProper = true)
    (h : p.write rest = q.write rest') : p.opening = q.opening := by
  rw [← filter_head_write hp rest, h, filter_head_write hq]

/-- Values whose texts open alike are of one kind; the literals are the same then. -/
theorem kind_of_opening {p q : Json} (h : p.opening = q.opening) :
    match p with
    | .null => q = .null
    | .bool b => q = .bool b
    | .number _ => ∃ n, q = .number n
    | .string _ => ∃ s, q = .string s
    | .array _ => ∃ items, q = .array items
    | .object _ => ∃ members, q = .object members := by
  rcases p with _ | (_ | _) | _ | _ | _ | _ <;> rcases q with _ | (_ | _) | _ | _ | _ | _ <;>
    first
    | exact rfl
    | exact ⟨_, rfl⟩
    | exact absurd h (by simp [opening])

/-- A value and what follows it are known from the text. -/
def Legible (p : Json) : Prop :=
  ∀ q : Json, q.isProper = true → ∀ rest rest' : List Char, Breaks rest → Breaks rest' →
    p.write rest = q.write rest' → p = q ∧ rest = rest'

/-- A number ends where the characters of numbers end. -/
theorem legible_number {n : Number} (hn : (Json.number n).isProper = true) :
    (Json.number n).Legible := by
  intro q hq rest rest' stop stop' h
  obtain ⟨m, rfl⟩ : ∃ m, q = .number m := kind_of_opening (opening_eq hn hq h)
  have taken {n : Number} (hn : (Json.number n).isProper = true) {rest : List Char}
      (stop : Breaks rest) : (numberText n ++ rest).takeWhile isNumeral = numberText n := by
    rw [List.takeWhile_append_of_pos fun c => isNumeral_of_mem_numberText hn]
    cases rest with
    | nil => simp
    | cons c rest => simp [stop c rfl]
  have h : numberText n ++ rest = numberText m ++ rest' := h
  have same : numberText n = numberText m := by rw [← taken hn stop, h, taken hq stop']
  rw [same] at h
  exact ⟨congrArg Json.number (numberText_injective hn hq same), List.append_cancel_left h⟩

theorem writeItems_cons (x : Json) (xs : List Json) (rest : List Char) :
    writeItems (x :: xs) rest =
      x.write (if xs.isEmpty then rest else ',' :: writeItems xs rest) := by
  cases xs <;> rfl

theorem writeMembers_cons (m : String × Json) (ms : List (String × Json)) (rest : List Char) :
    writeMembers (m :: ms) rest =
      writeString m.1
        (':' :: m.2.write (if ms.isEmpty then rest else ',' :: writeMembers ms rest)) := by
  cases ms <;> rfl

/-- No value begins with the end of an array. -/
theorem write_ne_bracket {p : Json} (hp : p.isProper = true) : p.write rest ≠ ']' :: rest' := by
  intro h
  have first := filter_head_write hp rest
  have other : isNumeral ']' = false := rfl
  rw [h, List.head?_cons, Option.filter_some, other] at first
  cases p with
  | bool b => cases b <;> simp [opening] at first
  | _ => simp [opening] at first

/-- What follows an item or a member says whether it is the last one. -/
theorem last_or_more {close : Char} (other : close ≠ ',') {a b : Bool} {s t : List Char}
    (h : (if a then close :: rest else ',' :: s) = if b then close :: rest' else ',' :: t) :
    a = true ∧ b = true ∧ rest = rest' ∨ a = false ∧ b = false ∧ s = t := by
  cases a <;> cases b
  · exact .inr ⟨rfl, rfl, (List.cons.inj h).2⟩
  · exact absurd (List.cons.inj h).1.symm other
  · exact absurd (List.cons.inj h).1 other
  · exact .inl ⟨rfl, rfl, (List.cons.inj h).2⟩

theorem breaks_last_or_more {close : Char} (other : isNumeral close = false) (a : Bool)
    (rest s : List Char) : Breaks (if a then close :: rest else ',' :: s) := by
  split
  · exact breaks_cons other rest
  · exact breaks_cons rfl s

theorem legible_items {xs ys : List Json} (hxs : ∀ x ∈ xs, x.isProper = true)
    (hys : ∀ y ∈ ys, y.isProper = true) (legible : ∀ x ∈ xs, x.Legible)
    (h : writeItems xs (']' :: rest) = writeItems ys (']' :: rest')) : xs = ys ∧ rest = rest' := by
  induction xs generalizing ys with
  | nil =>
    cases ys with
    | nil => exact ⟨rfl, (List.cons.inj h).2⟩
    | cons y ys =>
      rw [writeItems_cons] at h
      exact absurd h.symm (write_ne_bracket (hys y List.mem_cons_self))
  | cons x xs ih =>
    cases ys with
    | nil =>
      rw [writeItems_cons] at h
      exact absurd h (write_ne_bracket (hxs x List.mem_cons_self))
    | cons y ys =>
      rw [List.forall_mem_cons] at hxs hys legible
      rw [writeItems_cons, writeItems_cons] at h
      obtain ⟨rfl, tail⟩ := legible.1 y hys.1 _ _ (breaks_last_or_more (by decide) _ _ _)
        (breaks_last_or_more (by decide) _ _ _) h
      rcases last_or_more (by decide) tail with ⟨none, none', same⟩ | ⟨-, -, more⟩
      · rw [List.isEmpty_iff.mp none, List.isEmpty_iff.mp none']
        exact ⟨rfl, same⟩
      · obtain ⟨rfl, same⟩ := ih hxs.2 hys.2 legible.2 more
        exact ⟨rfl, same⟩

theorem legible_members {xs ys : List (String × Json)} (hys : ∀ y ∈ ys, y.2.isProper = true)
    (legible : ∀ x ∈ xs, x.2.Legible)
    (h : writeMembers xs ('\x7d' :: rest) = writeMembers ys ('\x7d' :: rest')) :
    xs = ys ∧ rest = rest' := by
  induction xs generalizing ys with
  | nil =>
    cases ys with
    | nil => exact ⟨rfl, (List.cons.inj h).2⟩
    | cons y ys =>
      rw [writeMembers_cons] at h
      exact absurd (List.cons.inj h).1 (by decide)
  | cons x xs ih =>
    cases ys with
    | nil =>
      rw [writeMembers_cons] at h
      exact absurd (List.cons.inj h).1 (by decide)
    | cons y ys =>
      rw [List.forall_mem_cons] at hys legible
      rw [writeMembers_cons, writeMembers_cons] at h
      obtain ⟨name, value⟩ := writeString_injective h
      obtain ⟨value, tail⟩ := legible.1 y.2 hys.1 _ _ (breaks_last_or_more (by decide) _ _ _)
        (breaks_last_or_more (by decide) _ _ _) (List.cons.inj value).2
      have first : x = y := Prod.ext name value
      rcases last_or_more (by decide) tail with ⟨none, none', same⟩ | ⟨-, -, more⟩
      · rw [first, List.isEmpty_iff.mp none, List.isEmpty_iff.mp none']
        exact ⟨rfl, same⟩
      · obtain ⟨rfl, same⟩ := ih hys.2 legible.2 more
        exact ⟨congrArg (· :: xs) first, same⟩

theorem legible {p : Json} (hp : p.isProper = true) : p.Legible := by
  induction p using within with
  | null =>
    intro q hq rest rest' _ _ h
    obtain rfl : q = .null := kind_of_opening (opening_eq hp hq h)
    exact ⟨rfl, by simpa [write] using h⟩
  | bool b =>
    intro q hq rest rest' _ _ h
    obtain rfl : q = .bool b := kind_of_opening (opening_eq hp hq h)
    cases b <;> exact ⟨rfl, by simpa [write] using h⟩
  | number n => exact legible_number hp
  | string s =>
    intro q hq rest rest' _ _ h
    obtain ⟨t, rfl⟩ : ∃ t, q = .string t := kind_of_opening (opening_eq hp hq h)
    obtain ⟨rfl, same⟩ := writeString_injective h
    exact ⟨rfl, same⟩
  | array xs ih =>
    intro q hq rest rest' _ _ h
    obtain ⟨ys, rfl⟩ : ∃ ys, q = .array ys := kind_of_opening (opening_eq hp hq h)
    rw [isProper_array] at hp hq
    obtain ⟨rfl, same⟩ := legible_items hp hq (fun x hx => ih x hx (hp x hx)) (List.cons.inj h).2
    exact ⟨rfl, same⟩
  | object xs ih =>
    intro q hq rest rest' _ _ h
    obtain ⟨ys, rfl⟩ : ∃ ys, q = .object ys := kind_of_opening (opening_eq hp hq h)
    have hp := (isProper_object.mp hp).2
    have hq := (isProper_object.mp hq).2
    obtain ⟨rfl, same⟩ := legible_members hq (fun x hx => ih x hx (hp x hx)) (List.cons.inj h).2
    exact ⟨rfl, same⟩

/-- A proper value is known from its text. -/
theorem text_injective {p q : Json} (hp : p.isProper = true) (hq : q.isProper = true)
    (h : p.text = q.text) : p = q :=
  (legible hp q hq [] [] breaks_nil breaks_nil (String.ofList_injective h)).1

/-! ## Lines -/

theorem newline_notMem_escapeChar (c : Char) : '\n' ∉ escapeChar c := by
  have digits : ∀ n < 0x20, '\n' ∉ Text.hexDigits 4 n := by decide
  unfold escapeChar
  split
  · decide
  split
  · decide
  split
  · decide
  split
  · decide
  split
  · decide
  split
  · decide
  split
  · decide
  split
  · rename_i control
    simp [digits c.toNat control]
  · simp_all [eq_comm]

theorem newline_notMem_writeString (s : String) (h : '\n' ∉ rest) : '\n' ∉ writeString s rest := by
  simp [writeString, newline_notMem_escapeChar, h]

theorem newline_notMem_writeItems {xs : List Json}
    (items : ∀ x ∈ xs, ∀ {rest}, '\n' ∉ rest → '\n' ∉ x.write rest) (h : '\n' ∉ rest) :
    '\n' ∉ writeItems xs rest := by
  induction xs with
  | nil => exact h
  | cons x xs ih =>
    rw [List.forall_mem_cons] at items
    rw [writeItems_cons]
    refine items.1 ?_
    split
    · exact h
    · simp [ih items.2]

theorem newline_notMem_writeMembers {xs : List (String × Json)}
    (values : ∀ x ∈ xs, ∀ {rest}, '\n' ∉ rest → '\n' ∉ x.2.write rest) (h : '\n' ∉ rest) :
    '\n' ∉ writeMembers xs rest := by
  induction xs with
  | nil => exact h
  | cons x xs ih =>
    rw [List.forall_mem_cons] at values
    rw [writeMembers_cons]
    have value : '\n' ∉ x.2.write (if xs.isEmpty then rest else ',' :: writeMembers xs rest) := by
      refine values.1 ?_
      split
      · exact h
      · simp [ih values.2]
    exact newline_notMem_writeString _ (List.mem_cons.not.mpr (not_or.mpr ⟨by decide, value⟩))

/-- The text of a value stays on one line. -/
theorem newline_notMem_write {p : Json} (hp : p.isProper = true) (h : '\n' ∉ rest) :
    '\n' ∉ p.write rest := by
  induction p using within generalizing rest with
  | null => simp [write, h]
  | bool b => cases b <;> simp [write, h]
  | number n =>
    rw [write, List.mem_append, not_or]
    exact ⟨fun inside => absurd (isNumeral_of_mem_numberText hp inside) (by decide), h⟩
  | string s => exact newline_notMem_writeString s h
  | array xs ih =>
    rw [isProper_array] at hp
    have items := newline_notMem_writeItems (fun x hx _ => ih x hx (hp x hx))
      (show '\n' ∉ ']' :: rest by simp [h])
    simp [write, items]
  | object xs ih =>
    have hp := (isProper_object.mp hp).2
    have members := newline_notMem_writeMembers (fun x hx _ => ih x hx (hp x hx))
      (show '\n' ∉ '\x7d' :: rest by simp [h])
    simp [write, members]

end JobQueue.Json
