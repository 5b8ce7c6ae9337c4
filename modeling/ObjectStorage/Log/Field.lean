import ObjectStorage.Number.Rounded

/-!
# Fields

How a conversion fits what it shows into the text of a record: cut to a precision, and filled up to
a width with blanks or, between sign and digits, with zeros. Nothing is narrower than its width
(`le_length_fit`, `le_length_fitNumber`).
-/

namespace ObjectStorage.Log

open Number Text

/-- How a conversion fits its text. -/
structure Field where
  left : Bool
  zeros : Bool
  plus : Bool
  blank : Bool
  alternate : Bool
  width : Nat
  precision : Option Nat
  deriving DecidableEq, Repr

namespace Field

def bare : Field :=
  ⟨false, false, false, false, false, 0, none⟩

def cut (field : Field) (text : Text) : Text :=
  match field.precision with
  | some precision => text.take precision
  | none => text

def fit (field : Field) (text : Text) : Text :=
  let blanks := Text.replicate (field.width - text.length) ' '
  if field.left then text ++ blanks else blanks ++ text

def sign (field : Field) (negative : Bool) : List Char :=
  if negative then ['-'] else if field.plus then ['+'] else if field.blank then [' '] else []

/-- A number up to the width. Zeros, where the field asks for them and there is nothing to its
right to fill, stand between the digits and what leads them. -/
def fitNumber (field : Field) (negative : Bool) (mark digits : List Char) : Text :=
  let lead := field.sign negative ++ mark
  if field.zeros && !field.left then
    .ofChars (lead ++ List.replicate (field.width - lead.length - digits.length) '0' ++ digits)
  else field.fit (.ofChars (lead ++ digits))

/-- A text that is fitted into a field fills it. -/
theorem le_length_fit (field : Field) (text : Text) :
    field.width ≤ (field.fit text).length := by
  unfold fit
  dsimp only
  split <;> simp only [Text.length_append, Text.length_replicate] <;> omega

/-- So does a number. -/
theorem le_length_fitNumber (field : Field) (negative : Bool) (mark digits : List Char) :
    field.width ≤ (field.fitNumber negative mark digits).length := by
  unfold fitNumber
  dsimp only
  split
  · simp only [Text.length_ofChars, List.length_append, List.length_replicate]
    omega
  · exact le_length_fit ..

end Field

end ObjectStorage.Log
