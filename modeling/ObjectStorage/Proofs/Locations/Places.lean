import ObjectStorage.Proofs.Validation

/-!
# Places

A datum is in no bucket (`Datum.Bucketless`) or names no object of a bucket (`Datum.Objectless`) for
one of a few reasons. The checks of a bucket store refuse exactly such data
(`Datum.toBucketLocation_error_iff`, `Datum.toObjectLocation_error_iff`).
-/

namespace ObjectStorage

open Text

/-- A datum that is in no bucket: it is missing, its text is no location, its scheme is none of
bucket stores in any letter case, or it has no authority. -/
inductive Datum.Bucketless (source : Datum) : Prop
  | missing (nothing : source = .null)
  | unread {problem : LocationProblem} (given : source ≠ .null)
      (plain : ∀ own, source ≠ .location own)
      (refused : Location.ofText source.plain = .error problem)
  | elsewhere {location : Location} (read : source.toLocation = .ok location)
      (scheme : lower location.scheme ∉ Location.bucketSchemes)
  | unnamed {location : Location} (read : source.toLocation = .ok location)
      (nameless : location.authority = "")

/-- A datum that is no object of a bucket: it is in no bucket, or its path is nothing or the
root. -/
inductive Datum.Objectless (source : Datum) : Prop
  | bucketless (nowhere : source.Bucketless)
  | pathless {location : Location} (read : source.toLocation = .ok location)
      (root : location.path = "" ∨ location.path = "/")

namespace Datum

/-- Anything but nothing and a location is read as the text that it shows as. -/
theorem toLocation_plain {source : Datum} (given : source ≠ .null)
    (plain : ∀ own, source ≠ .location own) :
    source.toLocation = (Location.ofText source.plain).mapError .ofLocation := by
  unfold toLocation
  split
  · next own => exact (plain own rfl).elim
  · exact (given rfl).elim
  · rfl

theorem isBucketScheme_iff (scheme : Text) :
    Location.isBucketScheme scheme = true ↔ lower scheme ∈ Location.bucketSchemes :=
  List.contains_iff_mem

/-- What cannot be read is in no bucket. -/
theorem toLocation_refused {source : Datum} {fault : Fault}
    (unread : source.toLocation = .error fault) : source.Bucketless := by
  by_cases nothing : source = .null
  · exact .missing nothing
  by_cases given : ∃ own, source = .location own
  · obtain ⟨own, rfl⟩ := given
    cases unread
  · have plain : ∀ own, source ≠ .location own := fun own same => given ⟨own, same⟩
    rw [toLocation_plain nothing plain] at unread
    cases refused : Location.ofText source.plain with
    | error problem => exact .unread nothing plain refused
    | ok location =>
      rw [refused] at unread
      cases unread

/-- What is in no bucket is refused, and nothing else is. -/
theorem toBucketLocation_error_iff {source : Datum} :
    (∃ fault, source.toBucketLocation = .error fault) ↔ source.Bucketless := by
  constructor
  · rintro ⟨fault, refused⟩
    rcases Except.bind_error refused with unread | ⟨location, read, refused⟩
    · exact toLocation_refused unread
    rcases Except.bind_error refused with schemeless | ⟨_, _, refused⟩
    · refine .elsewhere read fun known => ?_
      unfold Location.needBucketScheme at schemeless
      rw [if_pos ((isBucketScheme_iff _).mpr known)] at schemeless
      cases schemeless
    rcases Except.bind_error refused with nameless | ⟨_, _, accepted⟩
    · exact .unnamed read (Location.needAuthority_error_iff.mp ⟨_, nameless⟩)
    · cases accepted
  · intro bucketless
    cases fit : source.toBucketLocation with
    | error fault => exact ⟨fault, rfl⟩
    | ok location =>
      obtain ⟨isRead, schemed, named⟩ := toBucketLocation_ok fit
      cases bucketless with
      | missing nothing =>
        rw [nothing] at isRead
        cases isRead
      | unread given plain refused =>
        rw [toLocation_plain given plain, refused] at isRead
        cases isRead
      | elsewhere read scheme =>
        cases read.symm.trans isRead
        exact (scheme ((isBucketScheme_iff _).mp schemed)).elim
      | unnamed read nameless =>
        cases read.symm.trans isRead
        obtain ⟨fault, lacking⟩ := Location.needAuthority_error_iff.mpr nameless
        cases lacking.symm.trans named

/-- What is no object of a bucket is refused where one is asked for, and nothing else is. -/
theorem toObjectLocation_error_iff {source : Datum} :
    (∃ fault, source.toObjectLocation = .error fault) ↔ source.Objectless := by
  rw [toObjectLocation_eq]
  cases fit : source.toBucketLocation with
  | error fault =>
    have nowhere : source.Bucketless := toBucketLocation_error_iff.mp ⟨fault, fit⟩
    exact ⟨fun _ => .bucketless nowhere, fun _ => ⟨fault, rfl⟩⟩
  | ok location =>
    obtain ⟨isRead, _, _⟩ := toBucketLocation_ok fit
    change (∃ fault, (location.needPath >>= fun _ => pure location) = .error fault) ↔ _
    constructor
    · rintro ⟨fault, refused⟩
      rcases Except.bind_error refused with pathless | ⟨_, _, accepted⟩
      · exact .pathless isRead (Location.needPath_error_iff.mp ⟨_, pathless⟩)
      · cases accepted
    · intro objectless
      cases objectless with
      | bucketless nowhere =>
        obtain ⟨fault, refused⟩ := toBucketLocation_error_iff.mpr nowhere
        cases refused.symm.trans fit
      | pathless read root =>
        cases read.symm.trans isRead
        obtain ⟨fault, lacking⟩ := Location.needPath_error_iff.mpr root
        rw [lacking]
        exact ⟨fault, rfl⟩

end Datum

end ObjectStorage
