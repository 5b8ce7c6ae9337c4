import ObjectStorage.Proofs.Locations.Grammar

/-!
# Locations in print

The text of a location reads as the location again exactly if its parts have the form in which they
are read and the text does not end with a blank (`Location.survives_iff`). So nothing is lost on the
way from a text to a location: reading finds the parts that were written, the location that is read
is printed as the text that was read, but for its letter case and the blanks around it, and a bucket
and a key are found again in the text that names them (`Location.texts_lossless`).
-/

namespace ObjectStorage

open Text

namespace Text

/-- The last code point of a text is a blank. -/
def endsBlank (text : Text) : Bool :=
  text.points.getLast?.any isBlankPoint

/-- A text does not end with a blank exactly if there is nothing to trim behind it. -/
theorem endsBlank_eq_false_iff {text : Text} :
    text.endsBlank = false ↔ trimRight isBlankPoint text.points = text.points := by
  have own : trimRight isBlankPoint text.points = text.points ↔
      ∀ filled : text.points ≠ [], ¬ isBlankPoint (text.points.getLast filled) = true :=
    List.rdropWhile_eq_self_iff
  rw [own]
  unfold endsBlank
  by_cases filled : text.points = []
  · simp [filled]
  · rw [List.getLast?_eq_some_getLast filled, Option.any_some, Bool.eq_false_iff]
    exact ⟨fun unblank _ => unblank, fun unblank => unblank filled⟩

/-- Whether a text with a mark in it ends with a blank is up to what stands behind the mark. -/
theorem endsBlank_marked (scheme rest : Text) :
    (scheme ++ "://" ++ rest).endsBlank = false ↔
      trimRight isBlankPoint rest.points = rest.points := by
  have slash : isBlankPoint (.char '/') = false := by decide
  have split : (scheme ++ "://" ++ rest).points =
      (scheme.points ++ [.char ':', .char '/']) ++ .char '/' :: rest.points := by
    rw [points_append, points_append, List.append_assoc, List.append_assoc]
    rfl
  rw [endsBlank_eq_false_iff, split, trimRight_append slash]
  constructor
  · intro same
    exact (List.cons.inj (List.append_cancel_left same)).2
  · intro same
    rw [same]

end Text

namespace Location

variable {scheme authority path : Text} {location : Location}

/-- The parts of a location have the form in which they are read: the scheme is one in small
letters, the authority has no slash, and the path, if there is one, begins with a slash. -/
structure Shaped (location : Location) : Prop where
  schemed : isScheme location.scheme.points = true
  small : location.scheme.points.map (.map Char.toLower) = location.scheme.points
  slashless : CodePoint.char '/' ∉ location.authority.points
  slashed : location.path = "" ∨ ∃ rest, location.path = "/" ++ rest

/-- The text of a location reads as the location. -/
def Survives (location : Location) : Prop :=
  (Datum.text location.text).toLocation = .ok location

/-- A location as it is read has the form in which it is read. -/
theorem Written.shaped (written : location.Written) : location.Shaped := by
  refine ⟨written.schemed, written.small, written.slashless, ?_⟩
  rcases written.slashed with empty | ⟨rest, slash⟩
  · exact .inl (congrArg Text.mk empty)
  · exact .inr ⟨⟨rest⟩, congrArg Text.mk slash⟩

/-- A text reads as the parts that it is made of. -/
theorem ofText_parts (schemed : isScheme scheme.points = true)
    (slashless : CodePoint.char '/' ∉ authority.points)
    (slashed : path = "" ∨ ∃ rest, path = "/" ++ rest)
    (ended : (scheme ++ "://" ++ authority ++ path).endsBlank = false) :
    ofText (scheme ++ "://" ++ authority ++ path) =
      .ok ⟨⟨scheme.points.map (.map Char.toLower)⟩, authority, path⟩ := by
  have whole : scheme ++ "://" ++ authority ++ path = scheme ++ "://" ++ (authority ++ path) :=
    congrArg Text.mk (List.append_assoc ..)
  rw [whole, endsBlank_marked] at ended
  have leading : path.points = [] ∨ ∃ rest, path.points = .char '/' :: rest := by
    rcases slashed with rfl | ⟨rest, rfl⟩
    · exact .inl rfl
    · exact .inr ⟨rest.points, rfl⟩
  obtain ⟨front, behind⟩ := cut_authority slashless leading
  rw [whole, ofText_schemed schemed, ended, points_append, front, behind]

/-- What is read from a text is printed as the stripped text, with the scheme in small letters. -/
theorem text_of_ofText {raw : Text} (read : ofText raw = .ok location) :
    ∃ scheme rest, strip raw = scheme ++ "://" ++ rest ∧
      CodePoint.char ':' ∉ scheme.points ∧ trimRight isBlankPoint rest.points = rest.points ∧
      location.text = lower scheme ++ "://" ++ rest := by
  obtain ⟨front, rest, schemed, stripped, rfl⟩ := ofText_ok read
  refine ⟨⟨front⟩, ⟨rest⟩, ?_, colon_of_isScheme schemed, trimRight_of_strip stripped, ?_⟩
  · refine congrArg Text.mk (stripped.trans ?_)
    exact (List.append_assoc front (Text.points "://") rest).symm
  · have small : lower ⟨front⟩ = ⟨front.map (.map Char.toLower)⟩ := lower_of_isScheme schemed
    rw [small]
    refine congrArg Text.mk ?_
    change _ ++ _ ++ rest.takeWhile _ ++ rest.dropWhile _ = _
    rw [List.append_assoc, List.takeWhile_append_dropWhile]
    rfl

/-- A text that is read as a location is read by the rule for texts. -/
theorem toLocation_text_iff {raw : Text} :
    (Datum.text raw).toLocation = .ok location ↔ ofText raw = .ok location := by
  change (ofText raw).mapError Fault.ofLocation = .ok location ↔ _
  cases ofText raw with
  | error problem => exact ⟨nofun, nofun⟩
  | ok own =>
    change Except.ok own = Except.ok location ↔ _
    rw [Except.ok.injEq, Except.ok.injEq]

/-- What is read from a text has its form, and its text does not end with a blank. -/
theorem shaped_of_ofText {raw : Text} (read : ofText raw = .ok location) :
    location.Shaped ∧ location.text.endsBlank = false := by
  obtain ⟨scheme, rest, -, -, trimmed, printed⟩ := text_of_ofText read
  refine ⟨(Written.of_ofText read).shaped, ?_⟩
  rw [printed, endsBlank_marked, trimmed]

/-- The text of a location reads as the location exactly if the parts have their form and no blank
is at the end. -/
theorem survives_iff : location.Survives ↔ location.Shaped ∧ location.text.endsBlank = false := by
  unfold Survives
  rw [toLocation_text_iff]
  refine ⟨shaped_of_ofText, ?_⟩
  rintro ⟨shaped, ended⟩
  have read := ofText_parts shaped.schemed shaped.slashless shaped.slashed ended
  rwa [shaped.small] at read

/-- A bucket and a key that a text can name: neither is empty, the bucket has no slash, and the key
does not end with a blank. -/
structure IsObjectName (bucket key : Text) : Prop where
  bucketed : bucket ≠ ""
  slashless : CodePoint.char '/' ∉ bucket.points
  keyed : key ≠ ""
  ended : key.endsBlank = false

/-- The text that names an object of a bucket. -/
def objectText (bucket key : Text) : Text :=
  "s3://" ++ bucket ++ "/" ++ key

variable {bucket key : Text}

/-- The text of a bucket and a key is read as the location of the object. -/
theorem IsObjectName.toLocation (object : IsObjectName bucket key) :
    (Datum.text (objectText bucket key)).toLocation = .ok ⟨"s3", bucket, "/" ++ key⟩ := by
  have parts : objectText bucket key = "s3" ++ "://" ++ bucket ++ ("/" ++ key) :=
    congrArg Text.mk (List.append_assoc ..)
  have schemed : isScheme (Text.points "s3") = true := by decide
  have ended : ("s3" ++ "://" ++ bucket ++ ("/" ++ key)).endsBlank = false := by
    have filled : key.points ≠ [] := fun empty => object.keyed (congrArg Text.mk empty)
    have last : (objectText bucket key).points.getLast? = key.points.getLast? := by
      unfold objectText
      rw [points_append, List.getLast?_append_of_ne_nil _ filled]
    rw [← parts]
    unfold endsBlank
    rw [last]
    exact object.ended
  rw [toLocation_text_iff, parts, ofText_parts schemed object.slashless (.inr ⟨key, rfl⟩) ended]
  rfl

/-- The key of a path behind a slash is what stands behind the slash. -/
theorem key_slash (scheme authority : Text) (keyed : key ≠ "") :
    Location.key ⟨scheme, authority, "/" ++ key⟩ = .ok key := by
  have root : ("/" ++ key == ("/" : Text)) = false := by
    rw [beq_eq_false_iff_ne]
    intro same
    exact keyed (congrArg Text.mk (List.cons.inj (Text.mk.inj same)).2)
  have filled : ("/" ++ key).isEmpty = false := rfl
  unfold Location.key givenPath
  simp only [filled, root, Bool.or_self, Bool.false_eq_true, ↓reduceIte]
  rfl

/-- Nothing is lost between a text and the location that it reads as. A text of a scheme, an
authority and a path reads as these parts. The location that a text reads as is printed as that
text, with the scheme in small letters and without the blanks around it, and reads as itself again.
The text that names an object of a bucket leads back to the bucket and the key, so no two objects
have one text or one location. -/
theorem texts_lossless :
    (∀ scheme authority path : Text, IsSchemeText scheme →
      CodePoint.char '/' ∉ authority.points → (path = "" ∨ ∃ rest, path = "/" ++ rest) →
      (scheme ++ "://" ++ authority ++ path).endsBlank = false →
      (Datum.text (scheme ++ "://" ++ authority ++ path)).toLocation =
        .ok ⟨lower scheme, authority, path⟩) ∧
    (∀ (raw : Text) (location : Location), (Datum.text raw).toLocation = .ok location →
      location.Survives ∧ ∃ scheme rest, strip raw = scheme ++ "://" ++ rest ∧
        CodePoint.char ':' ∉ scheme.points ∧ location.text = lower scheme ++ "://" ++ rest) ∧
    (∀ bucket key : Text, IsObjectName bucket key → ∃ location,
      (Datum.text (objectText bucket key)).toLocation = .ok location ∧
        location.givenAuthority = .ok bucket ∧ location.key = .ok key) ∧
    ∀ bucket key other own : Text, IsObjectName bucket key → IsObjectName other own →
      (Datum.text (objectText bucket key)).toLocation =
        (Datum.text (objectText other own)).toLocation → bucket = other ∧ key = own := by
  refine ⟨?_, ?_, ?_, ?_⟩
  · intro scheme authority path grammatical slashless slashed ended
    have schemed : isScheme scheme.points = true :=
      (isScheme_iff _).mpr ⟨scheme, grammatical, .inl rfl⟩
    rw [toLocation_text_iff, ofText_parts schemed slashless slashed ended,
      ← grammatical.lower_points]
  · intro raw location read
    rw [toLocation_text_iff] at read
    obtain ⟨scheme, rest, stripped, unmarked, -, printed⟩ := text_of_ofText read
    exact ⟨survives_iff.mpr (shaped_of_ofText read), scheme, rest, stripped, unmarked, printed⟩
  · intro bucket key object
    refine ⟨_, object.toLocation, ?_, key_slash _ _ object.keyed⟩
    exact if_neg fun empty => object.bucketed (isEmpty_iff.mp empty)
  · intro bucket key other own object second same
    rw [object.toLocation, second.toLocation, Except.ok.injEq, mk.injEq] at same
    obtain ⟨-, buckets, paths⟩ := same
    exact ⟨buckets, congrArg Text.mk (List.cons.inj (Text.mk.inj paths)).2⟩

/-- A key with a slash in front, a mark, and blanks inside. -/
def oddKey : Text :=
  "/a b//?c#d://e"

theorem oddKey_texts_lossless :
    IsObjectName "b:c" oddKey ∧ IsObjectName "b" oddKey ∧ IsSchemeText "S3A" ∧
    (Datum.text ("S3A" ++ "://" ++ "b:c" ++ ("/" ++ oddKey))).toLocation =
      .ok ⟨lower "S3A", "b:c", "/" ++ oddKey⟩ ∧
    (Location.Survives ⟨"s3", "b", "/k"⟩ ∧ ∃ scheme rest,
      strip " S3://b/k " = scheme ++ "://" ++ rest ∧ CodePoint.char ':' ∉ scheme.points ∧
        Location.text ⟨"s3", "b", "/k"⟩ = lower scheme ++ "://" ++ rest) ∧
    (∃ location, (Datum.text (objectText "b:c" oddKey)).toLocation = .ok location ∧
      location.givenAuthority = .ok "b:c" ∧ location.key = .ok oddKey) ∧
    ((Datum.text (objectText "b:c" oddKey)).toLocation =
      (Datum.text (objectText "b" oddKey)).toLocation → ("b:c" : Text) = "b" ∧ oddKey = oddKey) := by
  obtain ⟨reads, prints, addresses, differ⟩ := texts_lossless
  have object : IsObjectName "b:c" oddKey := ⟨by decide, by decide, by decide, by decide⟩
  have second : IsObjectName "b" oddKey := ⟨by decide, by decide, by decide, by decide⟩
  have grammatical : IsSchemeText "S3A" :=
    ⟨'S', ['3', 'A'], rfl, .inl (by decide), by simp [IsSchemeMark, IsLetter]⟩
  exact ⟨object, second, grammatical,
    reads _ _ _ grammatical (by decide) (.inr ⟨oddKey, rfl⟩) (by decide),
    prints _ _ (by rfl), addresses _ _ object, differ _ _ _ _ object second⟩

end Location

end ObjectStorage
