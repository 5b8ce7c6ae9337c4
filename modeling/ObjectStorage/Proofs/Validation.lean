import ObjectStorage.BucketStore

/-!
# Fit locations

A datum that is no location, and a location that lacks a part, is told by one kind of fault only
(`Datum.toLocation_error`, `Location.needAuthority_error`); so a target without an identity is, too
(`StoreOptions.identityOf_error`). The location of an object has all its parts
(`Datum.toObjectLocation_ok`).
-/

namespace ObjectStorage

open Text

/-- What succeeds in two parts has succeeded in each of them. -/
theorem Except.bind_ok {ε α β : Type} {first : Except ε α} {next : α → Except ε β} {answer : β}
    (ran : (first >>= next) = .ok answer) :
    ∃ between, first = .ok between ∧ next between = .ok answer := by
  cases first with
  | error fault => cases ran
  | ok between => exact ⟨between, rfl, ran⟩

/-- What fails in two parts fails in the first, or in the second behind what the first came to. -/
theorem Except.bind_error {ε α β : Type} {first : Except ε α} {next : α → Except ε β} {fault : ε}
    (ran : (first >>= next) = .error fault) :
    first = .error fault ∨ ∃ between, first = .ok between ∧ next between = .error fault := by
  cases first with
  | error other =>
    cases ran
    exact .inl rfl
  | ok between => exact .inr ⟨between, rfl, ran⟩

/-- If a row is refused, one of its items is. -/
theorem Except.mapM_error {ε α β : Type} {each : α → Except ε β} {items : List α} {fault : ε}
    (refused : items.mapM each = .error fault) : ∃ item ∈ items, each item = .error fault := by
  induction items with
  | nil => cases refused
  | cons first rest ih =>
    rw [List.mapM_cons] at refused
    rcases bind_error refused with own | ⟨_, _, later⟩
    · exact ⟨first, List.mem_cons_self, own⟩
    rcases bind_error later with others | ⟨_, _, whole⟩
    · obtain ⟨item, inside, failed⟩ := ih others
      exact ⟨item, List.mem_cons_of_mem _ inside, failed⟩
    · cases whole

/-- Every answer for a row is that for one of its items. -/
theorem Except.mapM_ok {ε α β : Type} {each : α → Except ε β} {items : List α} {answers : List β}
    (ran : items.mapM each = .ok answers) {answer : β} (given : answer ∈ answers) :
    ∃ item ∈ items, each item = .ok answer := by
  induction items generalizing answers with
  | nil =>
    cases ran
    cases given
  | cons first rest ih =>
    rw [List.mapM_cons] at ran
    obtain ⟨own, here, ran⟩ := bind_ok ran
    obtain ⟨others, later, ran⟩ := bind_ok ran
    cases ran
    rcases List.mem_cons.mp given with rfl | behind
    · exact ⟨first, List.mem_cons_self, here⟩
    · obtain ⟨item, inside, answered⟩ := ih later behind
      exact ⟨item, List.mem_cons_of_mem _ inside, answered⟩

/-- If a row is not refused, none of its items is. -/
theorem Except.mapM_ok_of_mem {ε α β : Type} {each : α → Except ε β} {items : List α}
    {answers : List β} (ran : items.mapM each = .ok answers) {item : α} (inside : item ∈ items) :
    ∃ answer ∈ answers, each item = .ok answer := by
  induction items generalizing answers with
  | nil => cases inside
  | cons first rest ih =>
    rw [List.mapM_cons] at ran
    obtain ⟨own, here, ran⟩ := bind_ok ran
    obtain ⟨others, later, ran⟩ := bind_ok ran
    cases ran
    rcases List.mem_cons.mp inside with rfl | behind
    · exact ⟨own, List.mem_cons_self, here⟩
    · obtain ⟨answer, given, answered⟩ := ih later behind
      exact ⟨answer, List.mem_cons_of_mem _ given, answered⟩

/-- A row is refused exactly if one of its items is. -/
theorem Except.mapM_error_iff {ε α β : Type} {each : α → Except ε β} {items : List α} :
    (∃ fault, items.mapM each = .error fault) ↔
      ∃ item ∈ items, ∃ fault, each item = .error fault := by
  constructor
  · rintro ⟨fault, refused⟩
    obtain ⟨item, inside, failed⟩ := mapM_error refused
    exact ⟨item, inside, fault, failed⟩
  · rintro ⟨item, inside, fault, failed⟩
    cases ran : items.mapM each with
    | error first => exact ⟨first, rfl⟩
    | ok answers =>
      obtain ⟨answer, _, answered⟩ := mapM_ok_of_mem ran inside
      cases failed.symm.trans answered

/-- A row of answers that each stand for themselves is accepted as it is. -/
theorem Except.mapM_map_of_forall {ε α β : Type} {each : β → Except ε α} {form : α → β}
    {items : List α} (all : ∀ item ∈ items, each (form item) = .ok item) :
    (items.map form).mapM each = .ok items := by
  induction items with
  | nil => rfl
  | cons first rest ih =>
    obtain ⟨here, others⟩ := List.forall_mem_cons.mp all
    rw [List.map_cons, List.mapM_cons, here, ih others]
    rfl

/-- A problem with a location has become a fault. -/
theorem ofLocation_of_mapError {α : Type} {result : Except LocationProblem α} {fault : Fault}
    (failed : result.mapError Fault.ofLocation = .error fault) :
    ∃ problem, fault = .ofLocation problem := by
  cases result with
  | error problem =>
    cases failed
    exact ⟨problem, rfl⟩
  | ok answer => cases failed

/-- Only for a problem of the location is an authority refused. -/
theorem Location.needAuthority_error {location : Location} {fault : Fault}
    (failed : location.needAuthority = .error fault) : ∃ problem, fault = .ofLocation problem :=
  ofLocation_of_mapError failed

/-- The authority that a location is found to have is its own. -/
theorem Location.needAuthority_ok {location : Location} {authority : Text}
    (given : location.needAuthority = .ok authority) : authority = location.authority := by
  unfold Location.needAuthority Location.givenAuthority at given
  split at given
  · cases given
  · cases given
    rfl

theorem Text.isEmpty_iff {text : Text} : text.isEmpty = true ↔ text = "" := by
  rw [Text.mk.injEq]
  exact List.isEmpty_iff

/-- Only a location without an authority lacks one. -/
theorem Location.needAuthority_error_iff {location : Location} :
    (∃ fault, location.needAuthority = .error fault) ↔ location.authority = "" := by
  unfold needAuthority givenAuthority
  rw [← Text.isEmpty_iff]
  split
  · next empty => exact ⟨fun _ => empty, fun _ => ⟨_, rfl⟩⟩
  · next filled => exact ⟨nofun, fun empty => (filled empty).elim⟩

/-- A location is found to have an authority exactly if it is not empty. -/
theorem Location.needAuthority_ok_iff {location : Location} :
    location.needAuthority = .ok location.authority ↔ location.authority ≠ "" := by
  rw [Ne, ← needAuthority_error_iff]
  cases given : location.needAuthority with
  | error fault => exact ⟨nofun, fun named => (named ⟨fault, rfl⟩).elim⟩
  | ok authority => exact ⟨fun _ => nofun, fun _ => by rw [needAuthority_ok given]⟩

/-- Only a location whose path is nothing or the root lacks one. -/
theorem Location.needPath_error_iff {location : Location} :
    (∃ fault, location.needPath = .error fault) ↔ location.path = "" ∨ location.path = "/" := by
  have empty_iff : (location.path.isEmpty || location.path == "/") = true ↔
      location.path = "" ∨ location.path = "/" := by
    rw [Bool.or_eq_true, beq_iff_eq, Text.isEmpty_iff]
  unfold needPath givenPath
  rw [← empty_iff]
  split
  · next empty => exact ⟨fun _ => empty, fun _ => ⟨_, rfl⟩⟩
  · next filled => exact ⟨nofun, fun empty => (filled empty).elim⟩

/-- A location lacks a key exactly if it lacks a path. -/
theorem Location.needKey_eq (location : Location) :
    location.needKey = location.needPath.map keyOfPath := by
  unfold needKey needPath key
  cases location.givenPath <;> rfl

/-- Only for a problem of the location is a scheme refused. -/
theorem Location.needBucketScheme_error {location : Location} {fault : Fault}
    (failed : location.needBucketScheme = .error fault) :
    ∃ problem, fault = .ofLocation problem := by
  unfold needBucketScheme at failed
  split at failed
  · cases failed
  · cases failed
    exact ⟨_, rfl⟩

/-- Only for a problem of the location is a datum no location. -/
theorem Datum.toLocation_error {source : Datum} {fault : Fault}
    (failed : source.toLocation = .error fault) : ∃ problem, fault = .ofLocation problem := by
  unfold Datum.toLocation at failed
  split at failed
  · cases failed
  · cases failed
    exact ⟨_, rfl⟩
  · exact ofLocation_of_mapError failed

/-- A datum that is in no bucket has a problem as a location. -/
theorem Datum.toBucketLocation_error {source : Datum} {fault : Fault}
    (unfit : source.toBucketLocation = .error fault) : ∃ problem, fault = .ofLocation problem := by
  rcases Except.bind_error unfit with unread | ⟨location, _, unfit⟩
  · exact Datum.toLocation_error unread
  rcases Except.bind_error unfit with schemeless | ⟨_, _, unfit⟩
  · exact Location.needBucketScheme_error schemeless
  rcases Except.bind_error unfit with unnamed | ⟨_, _, fit⟩
  · exact Location.needAuthority_error unnamed
  · cases fit

/-- A location that was taken for one of a bucket was read, has a scheme of buckets, and has an
authority. -/
theorem Datum.toBucketLocation_ok {source : Datum} {location : Location}
    (fit : source.toBucketLocation = .ok location) : source.toLocation = .ok location ∧
      Location.isBucketScheme location.scheme = true ∧
      location.needAuthority = .ok location.authority := by
  obtain ⟨read, isRead, fit⟩ := Except.bind_ok fit
  obtain ⟨_, schemed, fit⟩ := Except.bind_ok fit
  obtain ⟨authority, named, fit⟩ := Except.bind_ok fit
  cases fit
  rw [Location.needAuthority_ok named] at named
  refine ⟨isRead, ?_, named⟩
  unfold Location.needBucketScheme at schemed
  split at schemed
  · assumption
  · cases schemed

/-- The place of an object is one in a bucket that has a path. -/
theorem Datum.toObjectLocation_eq (source : Datum) : source.toObjectLocation = do
    let location ← source.toBucketLocation
    let _ ← location.needPath
    return location := by
  unfold toObjectLocation toBucketLocation
  simp only [bind_assoc, pure_bind]

/-- A datum that is no place of an object has a problem as a location, too. -/
theorem Datum.toObjectLocation_error {source : Datum} {fault : Fault}
    (unfit : source.toObjectLocation = .error fault) : ∃ problem, fault = .ofLocation problem := by
  rw [toObjectLocation_eq] at unfit
  rcases Except.bind_error unfit with nowhere | ⟨location, _, unfit⟩
  · exact toBucketLocation_error nowhere
  rcases Except.bind_error unfit with pathless | ⟨_, _, fit⟩
  · exact ofLocation_of_mapError pathless
  · cases fit

/-- A target that names no bucket is no fit location. -/
theorem StoreOptions.bucketOf_error {target : Datum} {fault : Fault}
    (unnamed : bucketOf target = .error fault) : ∃ problem, fault = .ofLocation problem := by
  unfold bucketOf at unnamed
  split at unnamed
  · exact Location.needAuthority_error unnamed
  · split at unnamed
    · rcases Except.bind_error unnamed with unread | ⟨location, _, lacking⟩
      · exact Datum.toLocation_error unread
      · exact Location.needAuthority_error lacking
    · cases unnamed

/-- The options for a target are those for its bucket. -/
theorem StoreOptions.identityOf_of_bucket {options : StoreOptions} {target : Datum} {bucket : Text}
    (named : bucketOf target = .ok bucket) :
    options.identityOf target = .ok (options.effective bucket) := by
  unfold identityOf
  rw [named]
  rfl

/-- A target without a bucket has no options. -/
theorem StoreOptions.identityOf_of_refused {options : StoreOptions} {target : Datum} {fault : Fault}
    (unnamed : bucketOf target = .error fault) : options.identityOf target = .error fault := by
  unfold identityOf
  rw [unnamed]
  rfl

/-- Only for a problem of the location has a target no options. -/
theorem StoreOptions.identityOf_error {options : StoreOptions} {target : Datum} {fault : Fault}
    (refused : options.identityOf target = .error fault) :
    ∃ problem, fault = .ofLocation problem := by
  rcases Except.bind_error refused with unnamed | ⟨bucket, _, failed⟩
  · exact bucketOf_error unnamed
  · cases failed

/-- The location of an object has a scheme of bucket stores, an authority and a path. -/
theorem Datum.toObjectLocation_ok {source : Datum} {location : Location}
    (fit : source.toObjectLocation = .ok location) :
    source.toLocation = .ok location ∧ Location.isBucketScheme location.scheme = true ∧
      location.needAuthority = .ok location.authority ∧ location.needPath = .ok location.path := by
  rw [toObjectLocation_eq] at fit
  obtain ⟨own, inBucket, fit⟩ := Except.bind_ok fit
  obtain ⟨path, pathed, fit⟩ := Except.bind_ok fit
  cases fit
  obtain ⟨isRead, schemed, named⟩ := toBucketLocation_ok inBucket
  refine ⟨isRead, schemed, named, ?_⟩
  unfold Location.needPath Location.givenPath at pathed ⊢
  split at pathed
  · cases pathed
  · next filled => rw [if_neg filled]; rfl

/-- A sink for the location of an object commits to it. -/
theorem BucketStore.openSink_eq {σ : Type} (store : BucketStore σ) (source : Datum) :
    store.openSink source = Act.ofExcept
      (source.toObjectLocation.map fun location => ⟨location.text, store.commit location⟩) := by
  unfold openSink
  cases source.toObjectLocation <;> rfl

end ObjectStorage
