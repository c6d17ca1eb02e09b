import JobQueue.Proofs.Binary64.PlainText
import JobQueue.Proofs.Settings.Reading
import JobQueue.Proofs.Settings.Rules

/-!
# The worker prefix in the environment

The text of a variable is taken for a truth value or a number where it writes one, and a setting
that is a text gets it told again. So a prefix that looks like a number is kept only if it is just
as the number is written.

* `Settings.variableValue_cases`: the values that the text of a variable can write.
* `Settings.retold` and `Settings.Verbatim`: what a text setting gets of the text, and the texts
  that it gets unchanged. `Settings.retold_eq_iff` says that these are all.
* `Settings.load_workerPrefix`: what comes of a prefix.
-/

namespace JobQueue.Settings

open Text Binary64 Document

/-! ## The value of a variable -/

/-- A text in lower case, as far as it is ASCII. -/
def lowered (text : String) : String := String.ofList (text.toList.map Char.toLower)

variable {text : String} {negative : Bool} {c : Char} {rest : List Char}

/-- What the text of a variable writes: a truth value, a whole number that a word of 64 bits holds,
another number, or itself. -/
theorem variableValue_cases (text : String) :
    (∃ b, lowered text = toString b ∧ variableValue text = .bool b) ∨
    (∃ n, Word.holdsSigned 64 n = true ∧ ofText? text ≠ none ∧ variableValue text = .int n) ∨
    (∃ x, ofText? text = some x ∧ variableValue text = .float x) ∨
    (ofText? text = none ∧ lowered text ≠ "true" ∧ lowered text ≠ "false" ∧
      variableValue text = .text text) := by
  unfold variableValue
  rcases sign : readSign text.toList with ⟨negative, digits⟩
  dsimp only
  generalize (if negative = true then -(digitsToNat digits : Int) else digitsToNat digits) = n
  split
  · rename_i isTrue
    exact .inl ⟨true, isTrue, rfl⟩
  · rename_i noTrue
    split
    · rename_i isFalse
      exact .inl ⟨false, isFalse, rfl⟩
    · rename_i noFalse
      split
      · rename_i number
        simp only [Bool.and_eq_true, Bool.not_eq_true', List.isEmpty_eq_false_iff,
          List.all_eq_true] at number
        obtain ⟨⟨some_digit, all⟩, held⟩ := number
        obtain ⟨c, rest, rfl⟩ := List.exists_cons_of_ne_nil some_digit
        have read : ofText? text ≠ none := by
          rw [ofText?_of_digit sign (all c (List.mem_cons_self ..)),
            magnitudeOfText?_whole some_digit all]
          exact Option.some_ne_none _
        exact .inr (.inl ⟨n, held, read, rfl⟩)
      · cases ofText? text with
        | some x => exact .inr (.inr (.inl ⟨x, rfl, rfl⟩))
        | none => exact .inr (.inr (.inr ⟨rfl, noTrue, noFalse, rfl⟩))

/-- What a variable gives takes the place of whatever was there. -/
theorem layOver_variableValue (text : String) :
    Value.layOver (variableValue text) = fun _ => variableValue text := by
  funext under
  rcases variableValue_cases text with
    ⟨b, -, value⟩ | ⟨n, -, -, value⟩ | ⟨x, -, value⟩ | ⟨-, -, -, value⟩ <;> rw [value] <;> rfl

/-- What a variable gives is no list. -/
theorem isList_variableValue (text : String) : (variableValue text).isList = false := by
  rcases variableValue_cases text with
    ⟨b, -, value⟩ | ⟨n, -, -, value⟩ | ⟨x, -, value⟩ | ⟨-, -, -, value⟩ <;> rw [value] <;> rfl

theorem readSign_cases {s : List Char} (sign : readSign s = (negative, rest)) :
    s = rest ∨ s = '-' :: rest ∨ s = '+' :: rest := by
  unfold readSign at sign
  split at sign
  · cases sign
    exact .inr (.inl rfl)
  · cases sign
    exact .inr (.inr rfl)
  · cases sign
    exact .inl rfl

/-- What begins with a digit behind its sign is no word. -/
theorem lowered_ne_of_digit (sign : readSign text.toList = (negative, c :: rest))
    (digit : isDigit c = true) {word : String} {d : Char} {more : List Char}
    (letters : word.toList = d :: more) (letter : isDigit d = false ∧ d ≠ '-' ∧ d ≠ '+') :
    lowered text ≠ word := by
  rintro rfl
  obtain ⟨noDigit, noMinus, noPlus⟩ := letter
  rw [lowered, String.toList_ofList] at letters
  rcases readSign_cases sign with begins | begins | begins
  · rw [begins, List.map_cons, toLower_of_isDigit digit] at letters
    rw [(List.cons.inj letters).1, noDigit] at digit
    cases digit
  · rw [begins, List.map_cons] at letters
    exact noMinus (List.cons.inj letters).1.symm
  · rw [begins, List.map_cons] at letters
    exact noPlus (List.cons.inj letters).1.symm

/-- The number that digits write behind a sign. -/
def signed (negative : Bool) (digits : List Char) : Int :=
  if negative then -(digitsToNat digits : Int) else digitsToNat digits

theorem natAbs_signed (negative : Bool) (digits : List Char) :
    (signed negative digits).natAbs = digitsToNat digits := by
  cases negative
  · rfl
  · exact Int.natAbs_neg _

theorem signed_neg_iff (negative : Bool) (digits : List Char) :
    signed negative digits < 0 ↔ negative = true ∧ digitsToNat digits ≠ 0 := by
  cases negative
  · simp [signed]
  · simp only [signed, ↓reduceIte, true_and]
    omega

/-- Digits behind a sign are a whole number, if a word of 64 bits holds it, and else a fraction. -/
theorem variableValue_of_digit (sign : readSign text.toList = (negative, c :: rest))
    (digit : isDigit c = true) :
    variableValue text =
      if (c :: rest).all isDigit && Word.holdsSigned 64 (signed negative (c :: rest)) then
        .int (signed negative (c :: rest))
      else (magnitudeOfText? negative (c :: rest)).elim (.text text) .float := by
  have noTrue : lowered text ≠ "true" := lowered_ne_of_digit sign digit rfl (by decide)
  have noFalse : lowered text ≠ "false" := lowered_ne_of_digit sign digit rfl (by decide)
  unfold lowered at noTrue noFalse
  rw [← ofText?_of_digit sign digit]
  unfold variableValue
  rw [sign]
  dsimp only
  rw [if_neg noTrue, if_neg noFalse, List.isEmpty_cons, Bool.not_false, Bool.true_and]
  refine ite_congr rfl (fun _ => rfl) fun _ => ?_
  cases ofText? text <;> rfl

/-! ## What is kept -/

/-- What a text setting gets of the text of a variable. -/
def retold (text : String) : String := (variableValue text).toText?.getD ""

theorem toText?_variableValue (text : String) :
    (variableValue text).toText? = some (retold text) := by
  unfold retold
  rcases variableValue_cases text with ⟨b, -, h⟩ | ⟨n, -, -, h⟩ | ⟨x, -, h⟩ | ⟨-, -, -, h⟩ <;>
    rw [h] <;> rfl

/-- The texts that a text setting gets unchanged: truth values, whole numbers that a word of 64 bits
holds and other numbers, each as it is written, but for negative zero, and what is none of these. -/
inductive Verbatim : String → Prop
  | truth (b : Bool) : Verbatim (toString b)
  | whole {n : Int} (held : Word.holdsSigned 64 n = true) : Verbatim (toString n)
  | fraction {x : Binary64} (other : x ≠ ofOrdinal true 0) : Verbatim (x.write .plain)
  | word {text : String} (noTrue : lowered text ≠ "true") (noFalse : lowered text ≠ "false")
      (noNumber : ofText? text = none) : Verbatim text

/-- A whole number is written by its digits behind its sign. -/
theorem toList_toString (n : Int) :
    (toString n).toList =
      if decide (n < 0) then '-' :: Nat.toDigits 10 n.natAbs else Nat.toDigits 10 n.natAbs := by
  show n.repr.toList = _
  rw [Int.repr_eq_if]
  split
  · rename_i notNegative
    rw [if_neg (by simpa using notNegative), Nat.repr_eq_ofList_toDigits, String.toList_ofList]
    congr 1
    omega
  · rename_i negative
    have abs : (-n).toNat = n.natAbs := by omega
    rw [if_pos (by simpa using negative), Nat.repr_eq_ofList_toDigits, abs]
    simp only [String.toList_append, String.toList_ofList]
    rfl

theorem retold_toString {n : Int} (held : Word.holdsSigned 64 n = true) :
    retold (toString n) = toString n := by
  obtain ⟨c, rest, digits⟩ := List.exists_cons_of_ne_nil (@Nat.toDigits_ne_nil n.natAbs 10)
  have all : ∀ d ∈ c :: rest, isDigit d = true := fun d h =>
    isDigit_of_mem_toDigits (digits ▸ h)
  have digit := all c (List.mem_cons_self ..)
  have sign : readSign (toString n).toList = (decide (n < 0), c :: rest) := by
    rw [toList_toString, digits, readSign_of_digit digit]
  have number : signed (decide (n < 0)) (c :: rest) = n := by
    rw [signed, ← digits, digitsToNat_toDigits]
    split
    · rename_i negative
      have := of_decide_eq_true negative
      omega
    · rename_i notNegative
      rw [decide_eq_true_eq] at notNegative
      omega
  rw [retold, variableValue_of_digit sign digit, number, held, List.all_eq_true.mpr all]
  rfl

theorem retold_write {x : Binary64} (other : x ≠ ofOrdinal true 0) :
    retold (x.write .plain) = x.write .plain := by
  cases x with
  | nan => rfl
  | infinite negative => cases negative <;> rfl
  | finite negative o =>
    obtain ⟨c, rest, digit, text⟩ := magnitude_eq_cons o
    have sign := readSign_write negative o
    have read := magnitudeOfText?_magnitude negative o.isLt
    have whole := @magnitude_of_whole o
    rw [text] at sign read whole
    rw [retold, variableValue_of_digit sign digit, read]
    split
    · rename_i number
      rw [Bool.and_eq_true, List.all_eq_true] at number
      have digits := whole number.1
      refine String.toList_inj.mp ((toList_toString _).trans ?_)
      rw [write, String.toList_ofList, text]
      have isNegative : decide (signed negative (c :: rest) < 0) = negative := by
        cases negative with
        | false => simp [signed_neg_iff]
        | true =>
          rw [decide_eq_true_iff, signed_neg_iff]
          refine ⟨rfl, fun zero => ?_⟩
          -- only negative zero is written so
          rw [zero, Nat.toDigits_zero] at digits
          rw [← digits] at read
          exact other (Option.some.inj read).symm
      rw [isNegative, natAbs_signed, digits]
    · rfl

theorem retold_of_word (noNumber : ofText? text = none) (noTrue : lowered text ≠ "true")
    (noFalse : lowered text ≠ "false") : retold text = text := by
  rw [retold]
  rcases variableValue_cases text with
    ⟨b, word, -⟩ | ⟨n, -, read, -⟩ | ⟨x, read, -⟩ | ⟨-, -, -, value⟩
  · cases b
    · exact absurd word noFalse
    · exact absurd word noTrue
  · exact absurd noNumber read
  · rw [noNumber] at read
    cases read
  · rw [value]
    rfl

/-- A text setting gets just these texts unchanged. -/
theorem retold_eq_iff : retold text = text ↔ Verbatim text := by
  constructor
  · intro same
    unfold retold at same
    rcases variableValue_cases text with
      ⟨b, -, value⟩ | ⟨n, held, -, value⟩ | ⟨x, -, value⟩ | ⟨noNumber, noTrue, noFalse, -⟩
    · rw [value] at same
      cases b
      · exact same ▸ .truth false
      · exact same ▸ .truth true
    · rw [value] at same
      exact same ▸ .whole held
    · have written : x.write .plain = text := by rwa [value] at same
      have other : x ≠ ofOrdinal true 0 := by
        -- its text writes a whole number
        rintro rfl
        rw [← written] at value
        cases value
      exact written ▸ .fraction other
    · exact .word noTrue noFalse noNumber
  · rintro (b | held | other | ⟨noTrue, noFalse, noNumber⟩)
    · cases b <;> rfl
    · exact retold_toString held
    · exact retold_write other
    · exact retold_of_word noNumber noTrue noFalse

/-! ## What is not blank -/

theorem isAllBlank_of_digit (h : c ∈ text.toList) (digit : isDigit c = true) :
    isAllBlank text = false := by
  have visible : isBlank c = false := by
    simp only [isDigit, Bool.and_eq_true, decide_eq_true_eq] at digit
    simp only [isBlank, Bool.or_eq_false_iff, Bool.and_eq_false_iff, decide_eq_false_iff_not]
    omega
  rw [isAllBlank, List.all_eq_false]
  exact ⟨c, h, by simp [visible]⟩

/-- A text that holds more than blanks still does when it is told again. -/
theorem isAllBlank_retold (visible : isAllBlank text = false) :
    isAllBlank (retold text) = false := by
  unfold retold
  rcases variableValue_cases text with
    ⟨b, -, value⟩ | ⟨n, -, -, value⟩ | ⟨x, -, value⟩ | ⟨-, -, -, value⟩ <;> rw [value]
  · cases b <;> decide
  · obtain ⟨c, rest, digits⟩ := List.exists_cons_of_ne_nil (@Nat.toDigits_ne_nil n.natAbs 10)
    have digit : isDigit c = true := isDigit_of_mem_toDigits (digits ▸ List.mem_cons_self ..)
    refine isAllBlank_of_digit (c := c) ?_ digit
    show c ∈ (toString n).toList
    rw [toList_toString, digits]
    split <;> simp
  · cases x with
    | nan => decide
    | infinite negative => cases negative <;> decide
    | finite negative o =>
      obtain ⟨c, rest, digit, digits⟩ := magnitude_eq_cons o
      refine isAllBlank_of_digit (c := c) ?_ digit
      show c ∈ ((finite negative o).write .plain).toList
      rw [write, String.toList_ofList, digits]
      split <;> simp
  · exact visible

/-! ## Loading -/

/-- A table of a prefix alone gives the standard settings with that prefix. -/
theorem ofValue?_workerPrefix {v : Value} {workerPrefix : String}
    (reads : v.toText? = some workerPrefix) :
    ofValue? (.table [("worker_prefix", v)]) = some { standard with workerPrefix } := by
  have read : valueReader (.named [("worker_prefix", v)]) =
      some ({ standard with workerPrefix }, .named [("worker_prefix", v)]) := by
    unfold valueReader
    iterate 9 rw [bind_reads _ (fieldOr_reads rfl)]
    rw [bind_reads _ (fieldOr_reads (a := workerPrefix) (by exact reads))]
    rfl
  rw [ofValue?, Value.entries, read]
  rfl

/-- The only variable of the queue makes a table of its value. -/
theorem layers_workerPrefix {before after : List (String × String)}
    (others : ∀ v ∈ before ++ after, ofVariable? v.1 v.2 = none) :
    layers [] (before ++ ("DROVER_WORKER_PREFIX", text) :: after) =
      .table [("worker_prefix", variableValue text)] := by
  have nothing {some : List (String × String)} (none : ∀ v ∈ some, ofVariable? v.1 v.2 = none) :
      some.filterMap (fun v => ofVariable? v.1 v.2) = [] := List.filterMap_eq_nil_iff.mpr none
  have entry : ofVariable? "DROVER_WORKER_PREFIX" text =
      some ("worker_prefix", variableValue text) := rfl
  have path : Path.ofText "worker_prefix" = ⟨"worker_prefix", []⟩ := by decide
  rw [List.forall_mem_append] at others
  have only : (before ++ ("DROVER_WORKER_PREFIX", text) :: after).filterMap
      (fun v => ofVariable? v.1 v.2) = [("worker_prefix", variableValue text)] := by
    rw [List.filterMap_append, nothing others.1, List.nil_append, List.filterMap_cons,
      nothing others.2]
    dsimp only
    rw [entry]
  rw [layers, only]
  simp only [Value.lay, List.foldl_nil, List.foldl_cons, path, Value.put,
    Value.modifyAt, Value.entries, Value.find, List.find?_nil, Option.map_none, Option.getD_none,
    layOver_variableValue, Value.putEntry]

/-- Where a prefix that holds more than blanks is all that the environment sets of the queue, the
settings are the standard ones with the prefix told again. -/
theorem load_eq_retold {before after : List (String × String)}
    (others : ∀ v ∈ before ++ after, ofVariable? v.1 v.2 = none)
    (visible : isAllBlank text = false) :
    load none (before ++ ("DROVER_WORKER_PREFIX", text) :: after) =
      .ok { standard with workerPrefix := retold text } := by
  have given := ofValue?_workerPrefix (toText?_variableValue text)
  have valid := validate_eq_ok_iff.mpr (sound_standard.withPrefix (isAllBlank_retold visible))
  simp only [load, pure_bind, layers_workerPrefix others, given, valid]
  rfl

/-- **The worker prefix in the environment.** Where a prefix that holds more than blanks is all that
the environment sets of the queue, loading succeeds, and leaves every other setting at its standard
value. The prefix is kept exactly when it is no truth value and no number, or is written just as
these are. -/
theorem load_workerPrefix {before after : List (String × String)}
    (others : ∀ v ∈ before ++ after, ofVariable? v.1 v.2 = none)
    (visible : isAllBlank text = false) :
    ∃ workerPrefix, load none (before ++ ("DROVER_WORKER_PREFIX", text) :: after) =
        .ok { standard with workerPrefix } ∧
      (workerPrefix = text ↔ Verbatim text) :=
  ⟨retold text, load_eq_retold others visible, retold_eq_iff⟩

theorem load_workerPrefix_pool :
    load none [("PATH", "/bin"), ("DROVER_WORKER_PREFIX", "pool-7")] =
      .ok { standard with workerPrefix := "pool-7" } := by
  obtain ⟨workerPrefix, loaded, kept⟩ :=
    @load_workerPrefix "pool-7" [("PATH", "/bin")] [] (by decide) (by decide)
  rw [kept.mpr (.word (by decide) (by decide) (by decide))] at loaded
  exact loaded

/-- A prefix that is a number with a zero at its end loses the zero. -/
theorem load_loses_zero :
    isAllBlank "1.50" = false ∧
      load none [("DROVER_WORKER_PREFIX", "1.50")] =
        .ok { standard with workerPrefix := "1.5" } ∧ "1.5" ≠ "1.50" := by
  have told : retold "1.50" = "1.5" := by decide +kernel
  have loaded := @load_eq_retold "1.50" [] [] (by simp) (by decide)
  rw [told] at loaded
  exact ⟨by decide, loaded, by decide⟩

end JobQueue.Settings
