import ObjectStorage.Text.Basic

/-!
# Lines of a text

A text cut at its line boundaries. The pair of carriage return and line feed is one boundary, and a
boundary at the end opens no further line.
-/

namespace ObjectStorage.Text

def isLineEnd (c : Char) : Bool :=
  let n := c.toNat
  (10 ≤ n && n ≤ 13) || (28 ≤ n && n ≤ 30) || n == 0x85 || n == 0x2028 || n == 0x2029

/-- The lines of a row of code points, `line` being the part of the current line already read, its
last code point first. -/
def linesFrom (line : List CodePoint) : List CodePoint → List (List CodePoint)
  | [] => if line.isEmpty then [] else [line.reverse]
  | .char '\r' :: .char '\n' :: rest => line.reverse :: linesFrom [] rest
  | point :: rest =>
    if point.isIn isLineEnd then line.reverse :: linesFrom [] rest
    else linesFrom (point :: line) rest

/-- The lines of a text, without what ends them. -/
def lines (text : Text) : List Text :=
  (linesFrom [] text.points).map Text.mk

example : lines "a\r\nb\n\nc" = (["a", "b", "", "c"] : List Text) := by decide

/-- The pieces of a list between the occurrences of a separator: one more than it occurs. -/
def splitAtEach {α : Type} [DecidableEq α] (separator : α) : List α → List (List α)
  | [] => [[]]
  | c :: rest =>
    if c == separator then [] :: splitAtEach separator rest
    else match splitAtEach separator rest with
      | piece :: pieces => (c :: piece) :: pieces
      | [] => [[c]]

/-- A list without one item at its end, if that is there. -/
def dropFinal {α : Type} [DecidableEq α] (item : α) (list : List α) : List α :=
  if list.getLast? = some item then list.dropLast else list

/-- The part of a list before the first occurrence of a separator and the part after it. -/
def cutAt? {α : Type} [DecidableEq α] (separator : α) : List α → Option (List α × List α)
  | [] => none
  | c :: rest =>
    if c == separator then some ([], rest)
    else (cutAt? separator rest).map fun parts => (c :: parts.1, parts.2)

/-- Cutting at the first separator loses nothing but the separator. -/
theorem eq_append_of_cutAt? {α : Type} [DecidableEq α] {separator : α}
    {text before after : List α} (cut : cutAt? separator text = some (before, after)) :
    text = before ++ separator :: after ∧ separator ∉ before := by
  induction text generalizing before with
  | nil => simp [cutAt?] at cut
  | cons c rest ih =>
    unfold cutAt? at cut
    split at cut
    · next same =>
      obtain ⟨rfl, rfl⟩ := by simpa using cut
      exact ⟨by simp [beq_iff_eq.mp same], List.not_mem_nil⟩
    · next other =>
      obtain ⟨⟨front, back⟩, found, parts⟩ := Option.map_eq_some_iff.mp cut
      obtain ⟨rfl, rfl⟩ := by simpa using parts
      obtain ⟨whole, outside⟩ := ih found
      refine ⟨by simp [whole], ?_⟩
      simp only [List.mem_cons, not_or]
      exact ⟨fun same => other (by simp [same]), outside⟩

end ObjectStorage.Text
