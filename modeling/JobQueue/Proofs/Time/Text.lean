import JobQueue.Time.Text
import JobQueue.Proofs.Text.Digits
import JobQueue.Proofs.Time.Calendar

/-!
# Instants, written and read

Every instant is read back from its text, to the nanosecond, leap seconds and years of many digits
included.

* `readYear_yearText`, `readPair_padded` and `readFraction_fractionText`: the parts of the text.
* `ofClock?_reading`: the parts of an instant make up the instant.
* `parse?_text`: the text as a whole.
-/

namespace JobQueue.Instant

open Time (Date)
open Text (padded isDigit isBlank)

variable {c : Char} {digits rest : List Char} {n : Nat}

/-! ## Numbers in a text -/

theorem isBlank_eq_false_of_isDigit (h : isDigit c = true) : isBlank c = false := by
  simp only [isDigit, Bool.and_eq_true, decide_eq_true_eq] at h
  simp only [isBlank, Bool.or_eq_false_iff, Bool.and_eq_false_iff, decide_eq_false_iff_not]
  omega

theorem skipBlanks_cons (h : isBlank c = false) : skipBlanks (c :: rest) = c :: rest := by
  rw [skipBlanks, List.dropWhile_cons, h]
  rfl

/-- There are no blanks to skip in front of digits. -/
theorem skipBlanks_append (all : ∀ c ∈ digits, isDigit c = true) (some : digits ≠ []) :
    skipBlanks (digits ++ rest) = digits ++ rest := by
  obtain ⟨c, digits, rfl⟩ := List.exists_cons_of_ne_nil some
  exact skipBlanks_cons (isBlank_eq_false_of_isDigit (all c List.mem_cons_self))

/-- Digits are taken off the front of a text, if they are as many as may be taken, or something else
follows. -/
theorem takeDigits_append {most : Nat} (all : ∀ c ∈ digits, isDigit c = true)
    (short : digits.length ≤ most)
    (stop : digits.length = most ∨ ∀ c ∈ rest.head?, isDigit c = false) :
    ((digits ++ rest).take most).takeWhile isDigit = digits := by
  have nothing : (rest.take (most - digits.length)).takeWhile isDigit = [] := by
    rcases stop with full | stop
    · rw [full, Nat.sub_self, List.take_zero, List.takeWhile_nil]
    · cases rest with
      | nil => rw [List.take_nil, List.takeWhile_nil]
      | cons c rest =>
        cases most - digits.length with
        | zero => rw [List.take_zero, List.takeWhile_nil]
        | succ k => rw [List.take_succ_cons, List.takeWhile_cons, stop c rfl]; rfl
  rw [List.take_append, List.take_of_length_le short, List.takeWhile_append_of_pos all, nothing,
    List.append_nil]

theorem readNumber_append {most : Nat} (all : ∀ c ∈ digits, isDigit c = true)
    (some : digits ≠ []) (short : digits.length ≤ most)
    (stop : digits.length = most ∨ ∀ c ∈ rest.head?, isDigit c = false) :
    readNumber most (digits ++ rest) = .some (Text.digitsToNat digits, rest) := by
  rw [readNumber, takeDigits_append all short stop, List.drop_left]
  simp [some]

/-- Two digits are read back. -/
theorem readPair_padded (small : n < 100) (rest : List Char) :
    readPair (padded 2 n ++ rest) = some (n, rest) := by
  have length : (padded 2 n).length = 2 := Text.length_padded (by decide) small
  rw [readPair, skipBlanks_append (fun _ => Text.isDigit_of_mem_padded) (Text.padded_ne_nil 2 n),
    readNumber_append (fun _ => Text.isDigit_of_mem_padded) (Text.padded_ne_nil 2 n)
      (Nat.le_of_eq length) (.inl length), Text.digitsToNat_padded]

theorem readSeparator_cons (h : isBlank c = false) : readSeparator c (c :: rest) = some rest := by
  rw [readSeparator, skipBlanks_cons h]
  exact if_pos rfl

/-! ## The parts -/

/-- A number of any length is read back, if something else than a digit follows. -/
theorem readNumber_padded (places : Nat) (stop : isDigit c = false) :
    readNumber (padded places n ++ c :: rest).length (padded places n ++ c :: rest) =
      some (n, c :: rest) := by
  have stops : ∀ d ∈ (c :: rest).head?, isDigit d = false := by
    rintro d ⟨⟩
    exact stop
  have short : (padded places n).length ≤ (padded places n ++ c :: rest).length := by
    rw [List.length_append]
    exact Nat.le_add_right _ _
  rw [readNumber_append (fun _ => Text.isDigit_of_mem_padded) (Text.padded_ne_nil places n) short
    (.inr stops), Text.digitsToNat_padded]

/-- A year is read back. -/
theorem readYear_yearText (year : Int) (rest : List Char) :
    readYear (yearText year ++ '-' :: rest) = some (year, '-' :: rest) := by
  unfold yearText
  split
  · rename_i short
    have length : (padded 4 year.toNat).length = 4 :=
      Text.length_padded (by decide) (by omega)
    have digits (c : Char) : c ∈ padded 4 year.toNat → isDigit c = true :=
      Text.isDigit_of_mem_padded
    have read :
        readNumber 4 (padded 4 year.toNat ++ '-' :: rest) = some (year.toNat, '-' :: rest) := by
      rw [readNumber_append digits (Text.padded_ne_nil _ _) (Nat.le_of_eq length) (.inl length),
        Text.digitsToNat_padded]
    rw [readYear, skipBlanks_append digits (Text.padded_ne_nil _ _)]
    -- the first digit is no sign
    obtain ⟨d, others, hd⟩ := List.exists_cons_of_ne_nil (Text.padded_ne_nil 4 year.toNat)
    have digit : isDigit d = true := digits d (hd ▸ List.mem_cons_self)
    rw [hd] at read ⊢
    split
    · rename_i sign
      cases sign
      cases digit
    · rename_i sign
      cases sign
      cases digit
    · simp only [read, Option.map_some, Int.toNat_of_nonneg short.1]
  · have dash : isDigit '-' = false := rfl
    have read := @readNumber_padded '-' rest year.natAbs 4 dash
    by_cases before : year < 0
    · rw [if_pos before, List.cons_append, readYear, skipBlanks_cons (by decide)]
      show (readNumber _ _).map _ = _
      simp only [read, Option.map_some, Int.ofNat_natAbs_of_nonpos (Int.le_of_lt before),
        Int.neg_neg]
    · rw [if_neg before, List.cons_append, readYear, skipBlanks_cons (by decide)]
      show (readNumber _ _).map _ = _
      simp only [read, Option.map_some, Int.natAbs_of_nonneg (Int.not_lt.mp before)]

/-- A fraction is read back. -/
theorem readFraction_fractionText (nano : Nat) (small : nano < 1000000000) :
    readFraction (fractionText nano ++ ['Z']) = some (nano, ['Z']) := by
  -- so many groups of three digits are read, and what they are short of nine counts as zeros
  have read (places k : Nat) (some : 0 < places) (few : places ≤ 9) (fits : k < 10 ^ places) :
      readFraction ('.' :: (padded places k ++ ['Z'])) = .some (k * 10 ^ (9 - places), ['Z']) := by
    have length : (padded places k).length = places := Text.length_padded some fits
    have stop : ∀ c ∈ ['Z'].head?, isDigit c = false := by
      rintro c ⟨⟩
      rfl
    have short : (padded places k).length ≤ 9 := by rwa [length]
    rw [readFraction, takeDigits_append (fun _ => Text.isDigit_of_mem_padded) short (.inr stop)]
    simp only [List.isEmpty_iff, Text.padded_ne_nil, ↓reduceIte, length, Text.digitsToNat_padded]
    rw [List.drop_left' length]
    rfl
  unfold fractionText
  split
  · rename_i zero
    rw [zero]
    rfl
  split
  · rename_i none whole
    rw [List.cons_append, read 3 _ (by decide) (by decide) (by omega)]
    simp
    omega
  split
  · rename_i none _ whole
    rw [List.cons_append, read 6 _ (by decide) (by decide) (by omega)]
    simp
    omega
  · rw [List.cons_append, read 9 _ (by decide) (by decide) (by omega)]
    simp

/-! ## Instants -/

/-- The years that instants reach are those of the calendar of instants. -/
theorem year_bounds (t : Instant) :
    -262143 ≤ (Date.ofDays (t.second / 86400)).year ∧
      (Date.ofDays (t.second / 86400)).year ≤ 262142 := by
  have first := t.first_le
  have last := t.le_last
  unfold firstSecond at first
  unfold lastSecond at last
  constructor
  · rw [Date.le_year_ofDays_iff]
    omega
  · have next : ¬262143 ≤ (Date.ofDays (t.second / 86400)).year := by
      have end_of_year : Date.toDays ⟨262142, 12, 31⟩ < Date.toDays ⟨262143, 1, 1⟩ := by decide
      rw [Date.le_year_ofDays_iff]
      omega
    omega

/-- An instant is made of its parts. -/
theorem ofParts?_parts (t : Instant) : ofParts? t.second t.nano = some t :=
  dif_pos ⟨t.first_le, t.le_last, t.nano_lt, t.leap⟩

/-- The readings of a clock at an instant make up the instant. -/
theorem ofClock?_reading (t : Instant) :
    let ofDay := (t.second % 86400).toNat
    let isLeap := 1000000000 ≤ t.nano
    ofClock? (Date.ofDays (t.second / 86400)) (ofDay / 3600) (ofDay / 60 % 60)
      (ofDay % 60 + if isLeap then 1 else 0) (if isLeap then t.nano - 1000000000 else t.nano) 0 =
        some t := by
  intro ofDay isLeap
  have years := t.year_bounds
  have valid := Date.valid_ofDays (t.second / 86400)
  have leap := t.leap
  have day : (ofDay : Int) = t.second % 86400 := Int.toNat_of_nonneg (by omega)
  have hour : ofDay / 3600 < 24 := by omega
  have minute : ofDay / 60 % 60 < 60 := by omega
  have inRange (second : Nat) (small : second ≤ 60) :
      ((Date.ofDays (t.second / 86400)).valid && decide (ofDay / 3600 < 24) &&
        decide (ofDay / 60 % 60 < 60) && decide (second ≤ 60) &&
        decide (-262143 ≤ (Date.ofDays (t.second / 86400)).year) &&
        decide ((Date.ofDays (t.second / 86400)).year ≤ 262142)) = true := by
    simp [valid, hour, minute, small, years]
  have total (second : Nat) (same : second = ofDay % 60) :
      (Date.ofDays (t.second / 86400)).toDays * 86400 + ((ofDay / 3600 : Nat) : Int) * 3600 +
        ((ofDay / 60 % 60 : Nat) : Int) * 60 + second - 0 = t.second := by
    rw [Date.toDays_ofDays, same]
    omega
  by_cases h : 1000000000 ≤ t.nano
  · have second : ofDay % 60 = 59 := by
      have last := leap h
      omega
    have nano : t.nano - 1000000000 + 1000000000 = t.nano := Nat.sub_add_cancel h
    simp only [isLeap, h, ↓reduceIte, ofClock?, second]
    rw [if_pos (inRange 60 (by decide)), nano, total 59 second.symm, ofParts?_parts]
  · have second : ofDay % 60 + 0 ≠ 60 := by omega
    simp only [isLeap, h, ↓reduceIte, ofClock?, second]
    rw [if_pos (inRange _ (by omega)), total (ofDay % 60 + 0) rfl,
      ofParts?_parts]

/-- What is read first is handed on. -/
theorem bind_of_eq_some {α β : Type} {x : Option α} {a : α} {f : α → Option β} (h : x = some a) :
    (x >>= f) = f a := by
  rw [h]
  rfl

/-- **Every instant is read back from its text.** -/
theorem parse?_text (t : Instant) : parse? t.text = some t := by
  have bounds := Date.bounds_of_valid (Date.valid_ofDays (t.second / 86400))
  have month : (Date.ofDays (t.second / 86400)).month < 100 := by omega
  have day : (Date.ofDays (t.second / 86400)).day < 100 := by omega
  have reading := t.ofClock?_reading
  rw [parse?, text, String.toList_ofList, chars]
  dsimp only at reading ⊢
  have ofDay_lt : (t.second % 86400).toNat < 86400 := by omega
  generalize (t.second % 86400).toNat = ofDay at reading ofDay_lt ⊢
  have second : (ofDay % 60 + if 1000000000 ≤ t.nano then 1 else 0) < 100 := by split <;> omega
  have nano : (if 1000000000 ≤ t.nano then t.nano - 1000000000 else t.nano) < 1000000000 := by
    have small := t.nano_lt
    split <;> omega
  refine (bind_of_eq_some (readYear_yearText _ _)).trans ?_
  refine (bind_of_eq_some (readSeparator_cons (by decide))).trans ?_
  refine (bind_of_eq_some (readPair_padded month _)).trans ?_
  refine (bind_of_eq_some (readSeparator_cons (by decide))).trans ?_
  refine (bind_of_eq_some (readPair_padded day _)).trans ?_
  refine (bind_of_eq_some (readPair_padded (by omega : ofDay / 3600 < 100) _)).trans ?_
  refine (bind_of_eq_some (readSeparator_cons (by decide))).trans ?_
  refine (bind_of_eq_some (readPair_padded (by omega : ofDay / 60 % 60 < 100) _)).trans ?_
  refine (bind_of_eq_some (readSeparator_cons (by decide))).trans ?_
  refine (bind_of_eq_some (readPair_padded second _)).trans ?_
  refine (bind_of_eq_some (readFraction_fractionText _ nano)).trans ?_
  exact reading

end JobQueue.Instant
