import ObjectStorage.Proofs.Locations.Reading
import ObjectStorage.Proofs.Objects.Service
import ObjectStorage.Proofs.Validation

/-!
# Spellings of a location

The schemes of bucket stores, in any letter case, all lead to the same place: what stands before the
mark of a location has no part in it (`Datum.toObjectLocation_spelled`).
-/

namespace ObjectStorage

open Text

/-- A letter with letters and digits behind it is a scheme. -/
theorem Location.isScheme_plain {row : List CodePoint} {first : CodePoint} {others : List CodePoint}
    (split : row = first :: others) (letter : first.isIn Char.isAlpha = true)
    (plain : ∀ point ∈ row, point.isIn Char.isAlphanum = true) : isScheme row = true := by
  have last : dropFinal (.char '\n') row = row := by
    unfold dropFinal
    rw [if_neg]
    intro ended
    exact absurd (plain _ (List.mem_of_getLast? ended)) (by decide)
  unfold isScheme
  rw [last, split]
  simp only [Bool.and_eq_true, List.all_eq_true]
  refine ⟨letter, fun point inside => ?_⟩
  have own := plain point (split ▸ List.mem_cons_of_mem _ inside)
  cases point with
  | char c =>
    have known : c.isAlphanum = true := own
    simp [CodePoint.isIn, isSchemeChar, known]
  | half offset => cases own

/-- A scheme of bucket stores, in any letter case. -/
def Location.isSpelling (scheme : Text) : Bool :=
  bucketSchemes.contains ⟨scheme.points.map (.map Char.toLower)⟩

/-- The place that is named after the scheme of a location, if one is. -/
def Location.placeAfter (rest : Text) : Option (Text × Text) :=
  let row := trimRight isBlankPoint rest.points
  let authority : Text := ⟨row.takeWhile (· != '/')⟩
  let path : Text := ⟨row.dropWhile (· != '/')⟩
  if authority.isEmpty || (path.isEmpty || path == "/") then none
  else some (authority, keyOfPath path)

/-- The small letters of a spelling are those of the scheme, which all are letters and digits. -/
theorem Location.isSpelling_plain {scheme : Text} (spelling : isSpelling scheme = true) :
    (∃ first others, scheme.points = first :: others ∧ first.isIn Char.isAlpha = true) ∧
      ∀ point ∈ scheme.points, point.isIn Char.isAlphanum = true := by
  have plain : ∀ known ∈ bucketSchemes, known.points.head?.any (·.isIn Char.isAlpha) = true ∧
      ∀ point ∈ known.points, point.isIn Char.isAlphanum = true := by decide
  obtain ⟨head, all⟩ := plain _ (List.contains_iff_mem.mp spelling)
  refine ⟨?_, fun point inside => ?_⟩
  · cases row : scheme.points with
    | nil => simp [row] at head
    | cons first others =>
      rw [row, List.map_cons, List.head?_cons, Option.any_some] at head
      rw [CodePoint.isIn_map_toLower isAlpha_toLower] at head
      exact ⟨first, others, rfl, head⟩
  · rw [← CodePoint.isIn_map_toLower isAlphanum_toLower]
    exact all _ (List.mem_map_of_mem inside)

/-- The place of what can be read is its authority and its key, if it has both. -/
theorem Datum.toObjectLocation_place {source : Datum} {location : Location}
    (read : source.toLocation = .ok location)
    (served : Location.isBucketScheme location.scheme = true) :
    source.toObjectLocation.toOption.map Location.place =
      if location.authority.isEmpty || (location.path.isEmpty || location.path == "/") then none
      else some location.place := by
  have schemed : location.needBucketScheme = .ok () := if_pos served
  unfold toObjectLocation Location.needAuthority Location.needPath Location.givenAuthority
    Location.givenPath
  rw [read]
  change ((location.needBucketScheme >>= fun _ => _).toOption).map Location.place = _
  rw [schemed]
  cases location.authority.isEmpty with
  | true => rfl
  | false => cases location.path.isEmpty || location.path == "/" <;> rfl

/-- All spellings of a location are of the same place. -/
theorem Datum.toObjectLocation_spelled {scheme : Text}
    (spelling : Location.isSpelling scheme = true) (rest : Text) :
    (Datum.text (scheme ++ "://" ++ rest)).toObjectLocation.toOption.map Location.place =
      Location.placeAfter rest := by
  obtain ⟨⟨first, others, row, letter⟩, plain⟩ := Location.isSpelling_plain spelling
  have known : ∀ own ∈ Location.bucketSchemes, Location.isBucketScheme own = true := by decide
  have served := known _ (List.contains_iff_mem.mp spelling)
  have read : (Datum.text (scheme ++ "://" ++ rest)).toLocation = _ :=
    congrArg (Except.mapError Fault.ofLocation)
      (Location.ofText_schemed (Location.isScheme_plain row letter plain) rest)
  exact Datum.toObjectLocation_place read served

end ObjectStorage
