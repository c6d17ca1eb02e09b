/-!
# Blank characters

A job type is trimmed before it is accepted, and a worker prefix must hold more than blanks. Blank
are the characters with the Unicode property `White_Space`, not only those of ASCII.
-/

namespace JobQueue.Text

/-- The characters with the property `White_Space`. -/
def isBlank (c : Char) : Bool :=
  let n := c.toNat
  (9 ≤ n && n ≤ 13) || n = 0x20 || n = 0x85 || n = 0xA0 || n = 0x1680 ||
    (0x2000 ≤ n && n ≤ 0x200A) || n = 0x2028 || n = 0x2029 || n = 0x202F || n = 0x205F ||
    n = 0x3000

/-- The characters left when the blanks at both ends are gone. -/
def trimBlanks (s : List Char) : List Char :=
  ((s.dropWhile isBlank).reverse.dropWhile isBlank).reverse

/-- A text without the blanks at its ends. -/
def trim (s : String) : String := String.ofList (trimBlanks s.toList)

/-- What a text with no blank in front begins with has none in front either. -/
theorem dropWhile_isBlank_of_prefix {s t : List Char} (first : s <+: t.dropWhile isBlank) :
    s.dropWhile isBlank = s := by
  cases s with
  | nil => rfl
  | cons c rest =>
    obtain ⟨more, split⟩ := first
    have visible := List.head?_dropWhile_not isBlank t
    rw [← split] at visible
    exact List.dropWhile_cons_of_neg (by simpa using visible)

/-- Once the blanks at both ends are gone there are none to drop. -/
theorem trimBlanks_trimBlanks (s : List Char) : trimBlanks (trimBlanks s) = trimBlanks s := by
  have front : (trimBlanks s).dropWhile isBlank = trimBlanks s := by
    refine dropWhile_isBlank_of_prefix (t := s) ?_
    have rear : (s.dropWhile isBlank).reverse.dropWhile isBlank <:+ (s.dropWhile isBlank).reverse :=
      List.dropWhile_suffix isBlank
    exact List.reverse_suffix.mp (by rwa [trimBlanks, List.reverse_reverse])
  have back : (trimBlanks s).reverse.dropWhile isBlank = (trimBlanks s).reverse := by
    have rest : (trimBlanks s).reverse = (s.dropWhile isBlank).reverse.dropWhile isBlank :=
      List.reverse_reverse _
    exact dropWhile_isBlank_of_prefix ⟨[], by rw [List.append_nil, rest]⟩
  show (((trimBlanks s).dropWhile isBlank).reverse.dropWhile isBlank).reverse = trimBlanks s
  rw [front, back, List.reverse_reverse]

/-- A trimmed text stays as it is when it is trimmed again. -/
theorem trim_trim (s : String) : trim (trim s) = trim s := by
  rw [trim, trim, String.toList_ofList, trimBlanks_trimBlanks]

/-- Whether a text holds nothing but blanks. -/
def isAllBlank (s : String) : Bool := s.toList.all isBlank

/-- What core calls whitespace is blank. -/
theorem isBlank_of_isWhitespace (c : Char) (h : c.isWhitespace = true) : isBlank c = true := by
  simp only [Char.isWhitespace, Bool.or_eq_true, decide_eq_true_eq, or_assoc] at h
  rcases h with h | h | h | h <;> subst h <;> rfl

end JobQueue.Text
