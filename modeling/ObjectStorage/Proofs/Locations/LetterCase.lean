import ObjectStorage.Proofs.Locations.Places
import ObjectStorage.Proofs.Locations.Reading

/-!
# Letter case of schemes

A location that is read from a text has its scheme in small letters
(`Location.Written.lower_scheme`). A location that is given as such keeps its capitals, and a bucket
store takes the scheme for one of its own all the same (`Datum.OddlyCased`).
-/

namespace ObjectStorage

open Text

/-- A row of code points that are all of one class is a row of characters of it. -/
theorem exists_chars {inClass : Char → Bool} {row : List CodePoint}
    (all : ∀ point ∈ row, point.isIn inClass = true) :
    ∃ chars : List Char, row = chars.map .char ∧ ∀ c ∈ chars, inClass c = true := by
  induction row with
  | nil => exact ⟨[], rfl, nofun⟩
  | cons point rest ih =>
    obtain ⟨here, others⟩ := List.forall_mem_cons.mp all
    obtain ⟨chars, rfl, inside⟩ := ih others
    cases point with
    | char c => exact ⟨c :: chars, rfl, List.forall_mem_cons.mpr ⟨here, inside⟩⟩
    | half offset => cases here

/-- The characters of schemes are in ASCII. -/
theorem isSchemeChar_ascii {c : Char} (inScheme : Location.isSchemeChar c = true) :
    c.toNat < 128 := by
  unfold Location.isSchemeChar at inScheme
  simp only [Bool.or_eq_true, beq_iff_eq] at inScheme
  rcases inScheme with ((plain | rfl) | rfl) | rfl
  · exact Nat.lt_of_le_of_lt (toNat_of_isAlphanum plain).2 (by decide)
  all_goals decide

/-- The small letters of a scheme are those of ASCII. -/
theorem Location.lower_of_isScheme {row : List CodePoint} (schemed : isScheme row = true) :
    lower ⟨row⟩ = ⟨row.map (.map Char.toLower)⟩ := by
  have ascii : ∀ point ∈ row, point.isIn (fun c => c.toNat < 128) = true := by
    intro point inside
    rcases Location.isScheme_chars schemed point inside with own | rfl
    · cases point with
      | char c => exact decide_eq_true (isSchemeChar_ascii own)
      | half offset => cases own
    · decide
  obtain ⟨chars, rfl, small⟩ := exists_chars ascii
  rw [List.map_map]
  exact congrArg Text.mk (lowerFrom_ascii false fun c inside => of_decide_eq_true (small c inside))

/-- The scheme of a location that was read from a text has no capitals. -/
theorem Location.Written.lower_scheme {location : Location} (written : location.Written) :
    lower location.scheme = location.scheme :=
  (Location.lower_of_isScheme written.schemed).trans (congrArg Text.mk written.small)

/-- A location that is given as such, with a scheme of bucket stores that is not in small
letters. -/
def Datum.OddlyCased (source : Datum) : Prop :=
  ∃ own, source = .location own ∧ Location.isBucketScheme own.scheme = true ∧
    own.scheme ∉ Location.bucketSchemes

namespace Datum

variable {source : Datum} {location : Location}

/-- Where the place of an object or a bucket is looked for depends on the location alone. -/
theorem toBucketLocation_of_read (read : source.toLocation = .ok location) :
    (Datum.location location).toBucketLocation = source.toBucketLocation := by
  unfold toBucketLocation
  rw [read]
  rfl

/-- A location that was read is as fit for an object as what it was read from. -/
theorem toObjectLocation_of_read (read : source.toLocation = .ok location) :
    (Datum.location location).toObjectLocation = source.toObjectLocation := by
  rw [toObjectLocation_eq, toObjectLocation_eq, toBucketLocation_of_read read]

/-- A datum whose location has a scheme of bucket stores has it in small letters, or was given with
capitals. -/
theorem oddlyCased_of_read (read : source.toLocation = .ok location)
    (schemed : Location.isBucketScheme location.scheme = true) :
    location.scheme ∈ Location.bucketSchemes ∨ source.OddlyCased := by
  by_cases given : ∃ own, source = .location own
  · obtain ⟨own, rfl⟩ := given
    cases read
    by_cases small : location.scheme ∈ Location.bucketSchemes
    · exact .inl small
    · exact .inr ⟨location, rfl, schemed, small⟩
  · have plain : ∀ own, source ≠ .location own := fun own same => given ⟨own, same⟩
    have written := Location.Written.of_toLocation plain read
    rw [isBucketScheme_iff, written.lower_scheme] at schemed
    exact .inl schemed

end Datum

end ObjectStorage
