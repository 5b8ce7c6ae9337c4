import ObjectStorage.Text.Digit

/-!
# Percent escapes

Texts in which a percent sign and two hexadecimal digits stand for a byte. A percent sign without
them stands for itself, and a text without percent signs is its own reading (`unescape_eq_self`).
-/

namespace ObjectStorage.Text

/-- The character of an escaped byte. Bytes beyond ASCII are not read further. -/
def escapedChar (value : Nat) : Char :=
  if value < 128 then Char.ofNat value else '\uFFFD'

def unescape : List Char → List Char
  | '%' :: a :: b :: rest =>
    match hexValue? a, hexValue? b with
    | some high, some low => escapedChar (high * 16 + low) :: unescape rest
    | _, _ => '%' :: unescape (a :: b :: rest)
  | c :: rest => c :: unescape rest
  | [] => []

/-- A text without percent signs has nothing to unescape. -/
theorem unescape_eq_self {text : List Char} (free : '%' ∉ text) : unescape text = text := by
  induction text with
  | nil => rfl
  | cons c rest ih =>
    have differs : c ≠ '%' := fun same => free (same ▸ List.mem_cons_self)
    have tail : unescape rest = rest := ih fun member => free (List.mem_cons_of_mem _ member)
    rw [unescape, tail]
    intro _ _ _ same
    exact absurd same differs

example : unescape ['a', '%', '2', 'F', '%', 'z'] = ['a', '/', '%', 'z'] := by decide

end ObjectStorage.Text
