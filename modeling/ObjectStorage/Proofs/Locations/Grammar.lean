import ObjectStorage.Proofs.Locations.LetterCase

/-!
# The grammar of locations

A location is written as a scheme, the mark `://` and anything behind it, where a scheme is a letter
followed by letters, digits and the marks `+`, `.` and `-` (`Text.IsLocation`). Reading accepts what
the grammar does and, besides, a scheme with one line feed at its end, which then stays in the
scheme of the location (`Text.readsByGrammar_iff`).
-/

namespace ObjectStorage

open Text

namespace Location

/-- A letter of ASCII. -/
def IsLetter (c : Char) : Prop :=
  ('A' ≤ c ∧ c ≤ 'Z') ∨ ('a' ≤ c ∧ c ≤ 'z')

/-- What the grammar has in a scheme: letters and digits of ASCII and three marks. -/
def IsSchemeMark (c : Char) : Prop :=
  IsLetter c ∨ ('0' ≤ c ∧ c ≤ '9') ∨ c = '+' ∨ c = '.' ∨ c = '-'

/-- A scheme by the grammar. -/
def IsSchemeText (scheme : Text) : Prop :=
  ∃ first others, scheme = .ofChars (first :: others) ∧ IsLetter first ∧
    ∀ c ∈ others, IsSchemeMark c

/-- The check of a first character accepts the letters of ASCII. -/
theorem isLetter_iff (c : Char) : isLetter c = true ↔ IsLetter c := by
  unfold isLetter Char.isAlpha Char.isUpper Char.isLower
  rw [Bool.or_eq_true, Bool.and_eq_true, decide_eq_true_iff, decide_eq_true_iff,
    decide_eq_true_iff]
  exact Iff.rfl

/-- The check of a later character accepts what the grammar does. -/
theorem isSchemeChar_iff (c : Char) : isSchemeChar c = true ↔ IsSchemeMark c := by
  have letter : c.isAlpha = true ↔ IsLetter c := isLetter_iff c
  have digit : c.isDigit = true ↔ '0' ≤ c ∧ c ≤ '9' := by
    unfold Char.isDigit
    rw [Bool.and_eq_true, decide_eq_true_iff, decide_eq_true_iff]
    exact Iff.rfl
  unfold isSchemeChar Char.isAlphanum IsSchemeMark
  simp only [Bool.or_eq_true, beq_iff_eq, letter, digit, or_assoc]

/-- A row of code points is a letter and marks exactly if it is a scheme by the grammar. -/
theorem isSchemeText_iff (scheme : Text) : IsSchemeText scheme ↔
    ∃ first others, scheme.points = first :: others ∧ first.isIn isLetter = true ∧
      others.all (·.isIn isSchemeChar) = true := by
  constructor
  · rintro ⟨first, others, rfl, letter, marks⟩
    refine ⟨.char first, others.map .char, rfl, (isLetter_iff first).mpr letter, ?_⟩
    rw [List.all_map, List.all_eq_true]
    exact fun c inside => (isSchemeChar_iff c).mpr (marks c inside)
  · rintro ⟨first, others, row, letter, marks⟩
    obtain ⟨chars, rfl, inside⟩ := exists_chars (List.all_eq_true.mp marks)
    cases first with
    | char c =>
      exact ⟨c, chars, congrArg Text.mk row, (isLetter_iff c).mp letter,
        fun d behind => (isSchemeChar_iff d).mp (inside d behind)⟩
    | half offset => cases letter

/-- A scheme consists of marks of the grammar. -/
theorem IsSchemeText.chars {scheme : Text} (grammatical : IsSchemeText scheme) :
    ∀ point ∈ scheme.points, ∃ c, point = .char c ∧ IsSchemeMark c := by
  obtain ⟨first, others, rfl, letter, marks⟩ := grammatical
  intro point inside
  obtain ⟨c, member, rfl⟩ := List.mem_map.mp inside
  rcases List.mem_cons.mp member with rfl | behind
  · exact ⟨c, rfl, .inl letter⟩
  · exact ⟨c, rfl, marks c behind⟩

/-- No other character is in it. -/
theorem IsSchemeText.not_mem {scheme : Text} (grammatical : IsSchemeText scheme) {c : Char}
    (outside : isSchemeChar c = false) : CodePoint.char c ∉ scheme.points := by
  intro inside
  obtain ⟨_, same, mark⟩ := grammatical.chars _ inside
  cases same
  rw [(isSchemeChar_iff c).mpr mark] at outside
  cases outside

/-- Small letters of a scheme by the grammar are what the mapping of letters gives. -/
theorem IsSchemeText.lower_points {scheme : Text} (grammatical : IsSchemeText scheme) :
    (lower scheme).points = scheme.points.map (.map Char.toLower) := by
  have marks := grammatical.chars
  obtain ⟨first, others, rfl, -, -⟩ := grammatical
  have ascii : ∀ c ∈ first :: others, c.toNat < 128 := by
    intro c inside
    obtain ⟨_, same, mark⟩ := marks (.char c) (List.mem_map_of_mem inside)
    cases same
    exact isSchemeChar_ascii ((isSchemeChar_iff c).mpr mark)
  change lowerFrom false ((first :: others).map .char) =
    ((first :: others).map CodePoint.char).map (.map Char.toLower)
  rw [lowerFrom_ascii false ascii, List.map_map]
  rfl

/-- The small letters of a scheme by the grammar are one. -/
theorem IsSchemeText.lower {scheme : Text} (grammatical : IsSchemeText scheme) :
    IsSchemeText (lower scheme) := by
  have small := grammatical.lower_points
  obtain ⟨first, others, row, letter, marks⟩ := (isSchemeText_iff scheme).mp grammatical
  rw [row, List.map_cons] at small
  refine (isSchemeText_iff _).mpr ⟨_, _, small, ?_, ?_⟩
  · exact (CodePoint.isIn_map_toLower isAlpha_toLower first).trans letter
  · rw [List.all_map, ← marks]
    congr 1
    funext point
    exact CodePoint.isIn_map_toLower isSchemeChar_toLower point

/-- A line feed is the one thing that the check of a scheme overlooks, and only at the end. -/
theorem isScheme_iff (row : List CodePoint) : isScheme row = true ↔
    ∃ scheme, IsSchemeText scheme ∧
      (row = scheme.points ∨ row = scheme.points ++ [.char '\n']) := by
  have kept : isScheme row = true ↔ IsSchemeText ⟨dropFinal (.char '\n') row⟩ := by
    rw [isSchemeText_iff]
    unfold isScheme
    split
    · next nothing => exact ⟨nofun, fun ⟨_, _, row, _⟩ => by cases nothing.symm.trans row⟩
    · next first others split =>
      rw [Bool.and_eq_true]
      constructor
      · rintro ⟨letter, marks⟩
        exact ⟨first, others, split, letter, marks⟩
      · rintro ⟨_, _, row, letter, marks⟩
        cases split.symm.trans row
        exact ⟨letter, marks⟩
  rw [kept]
  have unfed : isSchemeChar '\n' = false := by decide
  constructor
  · intro grammatical
    refine ⟨_, grammatical, ?_⟩
    change row = dropFinal (.char '\n') row ∨ row = dropFinal (.char '\n') row ++ _
    unfold dropFinal
    split
    · next ended => exact .inr (List.dropLast_append_getLast? _ ended).symm
    · exact .inl rfl
  · rintro ⟨scheme, grammatical, rfl | rfl⟩
    · rw [dropFinal, if_neg]
      · exact grammatical
      · exact fun ended => grammatical.not_mem unfed (List.mem_of_getLast? ended)
    · rw [dropFinal, if_pos List.getLast?_concat, List.dropLast_concat]
      exact grammatical

end Location

namespace Text

/-- The text is, but for the blanks around it, a scheme by the grammar, a separator and a rest. -/
def Splits (raw scheme separator rest : Text) : Prop :=
  Location.IsSchemeText scheme ∧ strip raw = scheme ++ separator ++ rest

/-- The grammar of locations. -/
def IsLocation (raw : Text) : Prop :=
  ∃ scheme rest, raw.Splits scheme "://" rest

/-- A text that misses the grammar by one line feed behind the scheme. -/
def IsFedLocation (raw : Text) : Prop :=
  ∃ scheme rest, raw.Splits scheme "\n://" rest

/-- The text is read by the grammar: it is accepted exactly if it is a location, it is refused in no
other way than as an invalid location, and what is read has the scheme that is written, in small
letters. -/
structure ReadsByGrammar (raw : Text) : Prop where
  accepts : (∃ location, (Datum.text raw).toLocation = .ok location) ↔ raw.IsLocation
  refuses : ∀ fault, (Datum.text raw).toLocation = .error fault →
    ∃ problem, fault = .ofLocation problem
  lowers : ∀ location scheme rest, (Datum.text raw).toLocation = .ok location →
    raw.Splits scheme "://" rest → location.scheme = lower scheme
  spells : ∀ location, (Datum.text raw).toLocation = .ok location →
    Location.IsSchemeText location.scheme

variable {raw scheme rest : Text}

/-- A location that a text stands for is read from it. -/
theorem ofText_of_toLocation {location : Location}
    (read : (Datum.text raw).toLocation = .ok location) : Location.ofText raw = .ok location := by
  cases taken : Location.ofText raw with
  | error problem =>
    have refused : (Datum.text raw).toLocation = .error (.ofLocation problem) :=
      congrArg (Except.mapError Fault.ofLocation) taken
    cases refused.symm.trans read
  | ok own =>
    have same : (Datum.text raw).toLocation = .ok own :=
      congrArg (Except.mapError Fault.ofLocation) taken
    cases same.symm.trans read
    rfl

/-- What stands in front of the first mark is a scheme, or a scheme and a line feed. -/
theorem Splits.of_toLocation {location : Location}
    (read : (Datum.text raw).toLocation = .ok location) :
    ∃ scheme rest, raw.Splits scheme "://" rest ∨ raw.Splits scheme "\n://" rest := by
  obtain ⟨front, rest, schemed, stripped, -⟩ := Location.ofText_ok (ofText_of_toLocation read)
  obtain ⟨scheme, grammatical, rfl | rfl⟩ := (Location.isScheme_iff front).mp schemed
  · refine ⟨scheme, ⟨rest⟩, .inl ⟨grammatical, congrArg Text.mk (stripped.trans ?_)⟩⟩
    exact (List.append_assoc scheme.points (Text.points "://") rest).symm
  · refine ⟨scheme, ⟨rest⟩, .inr ⟨grammatical, congrArg Text.mk (stripped.trans ?_)⟩⟩
    rw [List.append_assoc]
    exact (List.append_assoc scheme.points (Text.points "\n://") rest).symm

/-- Whatever the check of a scheme accepts in front of the first mark becomes the scheme. -/
theorem toLocation_of_isScheme {front : List CodePoint} (schemed : Location.isScheme front = true)
    (stripped : (strip raw).points = front ++ Location.marked rest.points) :
    (Datum.text raw).toLocation = .ok ⟨⟨front.map (.map Char.toLower)⟩,
      ⟨rest.points.takeWhile (· != '/')⟩, ⟨rest.points.dropWhile (· != '/')⟩⟩ := by
  obtain ⟨first, others, rfl, -⟩ := Location.isScheme_first schemed
  have filled : (strip raw).isEmpty = false := by
    rw [Text.isEmpty, stripped]
    rfl
  change (Location.ofText raw).mapError Fault.ofLocation = _
  unfold Location.ofText
  simp only [filled, stripped, Location.cutScheme?_append (Location.colon_of_isScheme schemed),
    schemed, Bool.false_eq_true, ↓reduceIte]
  rfl

/-- A text that splits by the grammar is read as its parts. -/
theorem Splits.toLocation (splits : raw.Splits scheme "://" rest) :
    (Datum.text raw).toLocation = .ok ⟨lower scheme, ⟨rest.points.takeWhile (· != '/')⟩,
      ⟨rest.points.dropWhile (· != '/')⟩⟩ := by
  obtain ⟨grammatical, stripped⟩ := splits
  have row : (strip raw).points = scheme.points ++ Location.marked rest.points := by
    rw [stripped, points_append, points_append, List.append_assoc]
    rfl
  have schemed : Location.isScheme scheme.points = true :=
    (Location.isScheme_iff _).mpr ⟨scheme, grammatical, .inl rfl⟩
  rw [toLocation_of_isScheme schemed row, ← grammatical.lower_points]

/-- A line feed behind the scheme is read as part of it. -/
theorem Splits.toLocation_fed (splits : raw.Splits scheme "\n://" rest) :
    (Datum.text raw).toLocation = .ok ⟨lower scheme ++ "\n",
      ⟨rest.points.takeWhile (· != '/')⟩, ⟨rest.points.dropWhile (· != '/')⟩⟩ := by
  obtain ⟨grammatical, stripped⟩ := splits
  have row : (strip raw).points =
      (scheme.points ++ [.char '\n']) ++ Location.marked rest.points := by
    rw [stripped, points_append, points_append, List.append_assoc, List.append_assoc]
    rfl
  have schemed : Location.isScheme (scheme.points ++ [.char '\n']) = true :=
    (Location.isScheme_iff _).mpr ⟨scheme, grammatical, .inr rfl⟩
  rw [toLocation_of_isScheme schemed row, List.map_append, ← grammatical.lower_points]
  rfl

/-- By the grammar, a text with such a line feed is no location. -/
theorem Splits.not_isLocation (splits : raw.Splits scheme "\n://" rest) : ¬ raw.IsLocation := by
  rintro ⟨other, behind, grammar⟩
  -- A text has one first mark, so both ways to split it have the same scheme.
  have same := splits.toLocation_fed.symm.trans grammar.toLocation
  simp only [Except.ok.injEq, Location.mk.injEq] at same
  have unfed : Location.isSchemeChar '\n' = false := by decide
  refine grammar.1.lower.not_mem unfed ?_
  rw [← same.1]
  exact List.mem_append_right _ (List.mem_singleton.mpr rfl)

/-- Reading keeps to the grammar, but for the texts with a line feed between the scheme and the
mark. These are accepted against the grammar, and the scheme of what is read ends with the line
feed. -/
theorem readsByGrammar_iff (raw : Text) :
    (raw.ReadsByGrammar ↔ ¬ raw.IsFedLocation) ∧
    ∀ scheme rest, raw.Splits scheme "\n://" rest →
      ¬ raw.IsLocation ∧ ∃ location, (Datum.text raw).toLocation = .ok location ∧
        location.scheme = lower scheme ++ "\n" := by
  refine ⟨⟨?_, fun unfed => ⟨?_, fun _ => Datum.toLocation_error, ?_, ?_⟩⟩,
    fun _ _ splits => ⟨splits.not_isLocation, _, splits.toLocation_fed, rfl⟩⟩
  · rintro reads ⟨scheme, rest, splits⟩
    exact splits.not_isLocation (reads.accepts.mp ⟨_, splits.toLocation_fed⟩)
  · constructor
    · rintro ⟨location, read⟩
      obtain ⟨scheme, rest, grammar | splits⟩ := Splits.of_toLocation read
      · exact ⟨scheme, rest, grammar⟩
      · exact (unfed ⟨scheme, rest, splits⟩).elim
    · rintro ⟨scheme, rest, grammar⟩
      exact ⟨_, grammar.toLocation⟩
  · intro location scheme rest read grammar
    cases grammar.toLocation.symm.trans read
    rfl
  · intro location read
    obtain ⟨scheme, rest, grammar | splits⟩ := Splits.of_toLocation read
    · cases grammar.toLocation.symm.trans read
      exact grammar.1.lower
    · exact (unfed ⟨scheme, rest, splits⟩).elim

/-- A text with a line feed between its scheme and the mark. -/
def fedText : Text :=
  "s3\n://b/k"

/-- The text is no location by the grammar, and is read as one. -/
theorem fedText_not_readsByGrammar :
    (Datum.text fedText).toLocation = .ok ⟨"s3\n", "b", "/k"⟩ ∧ ¬ fedText.IsLocation ∧
      ¬ fedText.ReadsByGrammar := by
  have grammatical : Location.IsSchemeText "s3" :=
    ⟨'s', ['3'], rfl, .inr (by decide), by simp [Location.IsSchemeMark]⟩
  have splits : fedText.Splits "s3" "\n://" "b/k" := ⟨grammatical, by decide⟩
  have outside : ¬ fedText.IsLocation := splits.not_isLocation
  exact ⟨rfl, outside, fun reads => outside (reads.accepts.mp ⟨_, splits.toLocation_fed⟩)⟩

end Text

end ObjectStorage
