import ObjectStorage.Text.Blank
import ObjectStorage.Text.Digit

/-!
# Hexadecimal bytes

Bytes written as pairs of hexadecimal digits. Blanks of ASCII may stand between the pairs. What is
written for bytes is read as these bytes (`readHexFrom_hexByte`).
-/

namespace ObjectStorage.Text

/-- A blank that may stand between pairs. -/
def isPairBlank (c : Char) : Bool :=
  c == ' ' || (9 ≤ c.toNat && c.toNat ≤ 13)

/-- Reads pairs of digits that begin at a position, or gives the position of the first character
that is none. -/
def readHexFrom (position : Nat) : List Char → Except Nat (List UInt8)
  | [] => .ok []
  | [last] =>
    if isPairBlank last then .ok []
    else .error (if (hexValue? last).isSome then position + 1 else position)
  | first :: second :: rest =>
    if isPairBlank first then readHexFrom (position + 1) (second :: rest)
    else match hexValue? first, hexValue? second with
      | some high, some low =>
        (readHexFrom (position + 2) rest).map (UInt8.ofNat (high * 16 + low) :: ·)
      | none, _ => .error position
      | _, none => .error (position + 1)

/-- Reads pairs of digits. A character beyond ASCII is found before any other. -/
def readHex (text : Text) : Except Nat (List UInt8) :=
  match text.chars.findIdx? fun c => 128 ≤ c.toNat with
  | some position => .error position
  | none => readHexFrom 0 text.chars

theorem hexValue?_digitChar {value : Nat} (small : value < 16) :
    hexValue? (Nat.digitChar value) = some value ∧ isPairBlank (Nat.digitChar value) = false := by
  have all : ∀ value : Fin 16, hexValue? (Nat.digitChar value) = some value.val ∧
      isPairBlank (Nat.digitChar value) = false := by decide
  exact all ⟨value, small⟩

/-- What is written for bytes is read as these bytes. -/
theorem readHexFrom_hexByte (position : Nat) (bytes : List UInt8) :
    readHexFrom position (bytes.flatMap hexByte) = .ok bytes := by
  induction bytes generalizing position with
  | nil => rfl
  | cons byte rest ih =>
    have range : byte.toNat < 256 := byte.toNat_lt
    obtain ⟨high, notBlank⟩ := hexValue?_digitChar (show byte.toNat / 16 < 16 by omega)
    obtain ⟨low, _⟩ := hexValue?_digitChar (show byte.toNat % 16 < 16 by omega)
    have whole : byte.toNat / 16 * 16 + byte.toNat % 16 = byte.toNat := by omega
    simp only [List.flatMap_cons, hexByte, List.cons_append, List.nil_append, readHexFrom,
      notBlank, Bool.false_eq_true, ↓reduceIte, high, low, whole, UInt8.ofNat_toNat, ih]
    rfl

example : (readHex "00 fF").toOption = some [0, 255] := by decide +kernel

end ObjectStorage.Text
