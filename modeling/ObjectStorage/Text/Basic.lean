/-!
# Texts

A text is a row of code points. A code point is a character, or one of the two halves of a surrogate
pair where it stands without the other, as some formats allow. The number of a code point tells it
from all others (`CodePoint.ofValue_value`), and every number below `0x110000` is that of one
(`CodePoint.value_ofValue`). Strings stand for the texts of their characters.
-/

namespace ObjectStorage

/-- A code point: a character, or a half of a pair, counted from the first half on. -/
inductive CodePoint
  | char (c : Char)
  | half (offset : Fin 2048)
  deriving DecidableEq, Repr

namespace CodePoint

instance : Coe Char CodePoint := ⟨.char⟩

def firstHalf : Nat := 0xD800

def value : CodePoint → Nat
  | .char c => c.toNat
  | .half offset => firstHalf + offset

def ofValue (value : Nat) : CodePoint :=
  if within : firstHalf ≤ value ∧ value < firstHalf + 2048 then
    .half ⟨value - firstHalf, by omega⟩
  else .char (Char.ofNat value)

/-- The code point of a number below the limit has that number. -/
theorem value_ofValue {value : Nat} (inRange : value < 0x110000) :
    (ofValue value).value = value := by
  unfold ofValue
  split
  · next within => exact Nat.add_sub_cancel' within.1
  · next beyond =>
    have valid : value.isValidChar := by
      unfold firstHalf at beyond
      rcases Nat.lt_or_ge value 0xD800 with below | above
      · exact Or.inl below
      · exact Or.inr ⟨by omega, inRange⟩
    unfold CodePoint.value Char.ofNat
    rw [dif_pos valid]
    rfl

/-- A code point is the one of its number. -/
theorem ofValue_value (point : CodePoint) : ofValue point.value = point := by
  cases point with
  | char c =>
    have valid : c.toNat.isValidChar := c.valid
    have outside : ¬(firstHalf ≤ c.toNat ∧ c.toNat < firstHalf + 2048) := by
      unfold firstHalf
      rcases valid with below | ⟨above, _⟩ <;> omega
    unfold ofValue value
    rw [dif_neg outside, Char.ofNat_toNat]
  | half offset =>
    have within : firstHalf ≤ firstHalf + offset.val ∧
        firstHalf + offset.val < firstHalf + 2048 := ⟨by omega, by omega⟩
    have back : firstHalf + offset.val - firstHalf = offset.val := Nat.add_sub_cancel_left ..
    simp only [ofValue, value, dif_pos within, back]

/-- A character of a class. Halves belong to none. -/
def isIn (inClass : Char → Bool) : CodePoint → Bool
  | .char c => inClass c
  | .half _ => false

/-- A code point with its character changed, if it is one. -/
def map (change : Char → Char) : CodePoint → CodePoint
  | .char c => .char (change c)
  | .half offset => .half offset

/-- A half of a pair. -/
def isHalf : CodePoint → Bool
  | .char _ => false
  | .half _ => true

end CodePoint

/-- A text. -/
structure Text where
  points : List CodePoint
  deriving DecidableEq, Repr

namespace Text

def ofChars (chars : List Char) : Text :=
  ⟨chars.map .char⟩

def ofString (string : String) : Text :=
  ofChars string.toList

instance : Coe String Text := ⟨ofString⟩

instance : Inhabited Text := ⟨⟨[]⟩⟩

instance : Append Text := ⟨fun first second => ⟨first.points ++ second.points⟩⟩

def length (text : Text) : Nat :=
  text.points.length

def isEmpty (text : Text) : Bool :=
  text.points.isEmpty

def singleton (point : CodePoint) : Text :=
  ⟨[point]⟩

def replicate (count : Nat) (c : Char) : Text :=
  ⟨List.replicate count (.char c)⟩

/-- The first code points of a text, so many at most. -/
def take (count : Nat) (text : Text) : Text :=
  ⟨text.points.take count⟩

def join (texts : List Text) : Text :=
  ⟨texts.flatMap points⟩

/-- One text behind the other with a separator between them. -/
def intercalate (separator : Text) (texts : List Text) : Text :=
  ⟨separator.points.intercalate (texts.map points)⟩

def beginsWith (text front : Text) : Bool :=
  front.points.isPrefixOf text.points

/-- The characters of a text, with the replacement character in the place of a half. -/
def chars (text : Text) : List Char :=
  text.points.map fun point => match point with
    | .char c => c
    | .half _ => '\uFFFD'

/-- A text has characters only. -/
def isWhole (text : Text) : Bool :=
  text.points.all (!·.isHalf)

@[simp] theorem points_append (first second : Text) :
    (first ++ second).points = first.points ++ second.points := rfl

@[simp] theorem length_append (first second : Text) :
    (first ++ second).length = first.length + second.length :=
  List.length_append

@[simp] theorem length_replicate (count : Nat) (c : Char) : (replicate count c).length = count :=
  List.length_replicate

@[simp] theorem length_ofChars (chars : List Char) : (ofChars chars).length = chars.length :=
  List.length_map ..

theorem chars_ofChars (chars : List Char) : (ofChars chars).chars = chars := by
  simp [Text.chars, ofChars, List.map_map, Function.comp_def]

/-- The row `row` comes before `other` in the order of code points, or is the same. -/
def notAfter : List CodePoint → List CodePoint → Bool
  | [], _ => true
  | _ :: _, [] => false
  | point :: row, other :: others =>
    point.value < other.value || (point.value == other.value && notAfter row others)

instance : LE Text := ⟨fun first second => notAfter first.points second.points = true⟩

instance (first second : Text) : Decidable (first ≤ second) :=
  inferInstanceAs (Decidable (notAfter first.points second.points = true))

/-- The order of rows is transitive. -/
theorem notAfter_trans {first second third : List CodePoint}
    (left : notAfter first second = true) (right : notAfter second third = true) :
    notAfter first third = true := by
  induction first generalizing second third with
  | nil => rfl
  | cons p first ih =>
    cases second with
    | nil => simp [notAfter] at left
    | cons q second =>
      cases third with
      | nil => simp [notAfter] at right
      | cons r third =>
        simp only [notAfter, Bool.or_eq_true, Bool.and_eq_true, decide_eq_true_eq,
          beq_iff_eq] at left right ⊢
        rcases left with less | ⟨same, left⟩ <;> rcases right with more | ⟨alike, right⟩
        · exact Or.inl (Nat.lt_trans less more)
        · exact Or.inl (alike ▸ less)
        · exact Or.inl (same ▸ more)
        · exact Or.inr ⟨same.trans alike, ih left right⟩

theorem le_trans {first second third : Text} (left : first ≤ second) (right : second ≤ third) :
    first ≤ third :=
  notAfter_trans left right

example : ("a" ++ singleton (.ofValue 0xDC80)).length = 2 := by decide

end Text

end ObjectStorage
