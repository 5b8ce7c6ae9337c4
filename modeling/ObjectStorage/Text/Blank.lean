import ObjectStorage.Text.Basic

/-!
# Blank characters

Which characters count as blank, and the texts left when blanks, or the members of any other class,
are cut off at the two ends. What is cut off is blank and what is left neither starts nor ends with
a blank (`strip_eq_self`).
-/

namespace ObjectStorage.Text

/-- A character is blank when Unicode calls it white space or it is one of the four information
separators. -/
def isBlank (c : Char) : Bool :=
  let n := c.toNat
  (9 ≤ n && n ≤ 13) || (28 ≤ n && n ≤ 32) || n == 0x85 || n == 0xA0 || n == 0x1680 ||
    (0x2000 ≤ n && n ≤ 0x200A) || n == 0x2028 || n == 0x2029 || n == 0x202F || n == 0x205F ||
    n == 0x3000

/-- White space is blank. -/
theorem isBlank_of_isWhitespace {c : Char} (white : c.isWhitespace) : isBlank c := by
  simp only [Char.isWhitespace, Bool.or_eq_true, decide_eq_true_eq] at white
  rcases white with ((rfl | rfl) | rfl) | rfl <;> decide

/-- The items of a row from the first outside a class on. -/
def trimLeft {α : Type} (inClass : α → Bool) (row : List α) : List α :=
  row.dropWhile inClass

/-- The items of a row up to the last outside a class. -/
def trimRight {α : Type} (inClass : α → Bool) (row : List α) : List α :=
  (row.reverse.dropWhile inClass).reverse

/-- A row without the items of a class at its two ends. -/
def trimBoth {α : Type} (inClass : α → Bool) (row : List α) : List α :=
  trimRight inClass (trimLeft inClass row)

/-- A code point is blank when it is a blank character. -/
def isBlankPoint : CodePoint → Bool :=
  CodePoint.isIn isBlank

def strip (text : Text) : Text :=
  ⟨trimBoth isBlankPoint text.points⟩

/-- A row that starts and ends outside the class is left as it is. -/
theorem trimBoth_eq_self {α : Type} {inClass : α → Bool} {row : List α}
    (first : ∀ c ∈ row.head?, inClass c = false)
    (last : ∀ c ∈ row.getLast?, inClass c = false) : trimBoth inClass row = row := by
  have keepLeft : ∀ {l : List α}, (∀ c ∈ l.head?, inClass c = false) →
      l.dropWhile inClass = l := by
    intro l head
    cases l with
    | nil => rfl
    | cons c rest => simp [head c (by simp)]
  unfold trimBoth trimRight trimLeft
  rw [keepLeft first, keepLeft (by simpa using last), List.reverse_reverse]

/-- A text without blanks at its ends is left as it is. -/
theorem strip_eq_self {text : Text} (first : ∀ c ∈ text.points.head?, isBlankPoint c = false)
    (last : ∀ c ∈ text.points.getLast?, isBlankPoint c = false) : strip text = text := by
  rw [strip, trimBoth_eq_self first last]

end ObjectStorage.Text
