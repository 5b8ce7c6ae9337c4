import ObjectStorage.Proofs.Boundary.Batches

/-!
# The boundary of a store

Whatever goes wrong behind a store, what comes out of it is a failure in the store's own terms: a
problem of the location, before anything is asked of the service, or a failure whose cause is the
fault raised behind the store (`BucketStore.keepsBoundary`). The failures of a batch say whether to
retry, with the exception of buckets whose names read as locations
(`readOnlyStore_delete_misreads`).
-/

namespace ObjectStorage

open Text Time

variable {σ : Type}

namespace BucketStore

/-- What comes out of the operations of a store in a scene. -/
structure KeepsBoundary (store : BucketStore σ) (scene : Scene σ) : Prop where
  /-- A probe fails as a failure to reach its bucket, and never says whether to retry. -/
  ping : ∀ source : Datum, store.Ends scene source.toBucketLocation headRequest
    (fun place => store.head place.authority) StorageProblem.IsProbe (store.ping source scene).1
    (store.ping source scene).2
  /-- A read that fails says whether to retry. -/
  read : ∀ source : Datum, store.Ends scene source.toObjectLocation getRequest store.fetch
    StorageProblem.IsVerdict (store.read source scene).1 (store.read source scene).2
  /-- Opening a sink asks for nothing. -/
  opened : ∀ source : Datum,
    (∃ problem, source.toObjectLocation = .error (.ofLocation problem) ∧
      store.openSink source scene = (.error (.ofLocation problem), scene)) ∨
    ∃ location, source.toObjectLocation = .ok location ∧
      store.openSink source scene = (.ok ⟨location.text, store.commit location⟩, scene)
  /-- So does a sink that fails to commit when it is closed. A sink that does not collect is closed
  without a commit. -/
  closed : ∀ (source : Datum) (location : Location) (sink : Sink),
    source.toObjectLocation = .ok location →
    match sink.phase with
    | .collecting => store.Ends scene (.ok location) (putRequest sink.payload)
        (fun place => store.put place sink.payload) StorageProblem.IsVerdict
        (store.closeSink location (sink, scene)).1 (store.closeSink location (sink, scene)).2.2
    | _ => store.closeSink location (sink, scene) = (.ok (), (sink, scene))
  /-- A batch delete fails with the failures of its attempts. -/
  deleted : ∀ items : List Datum, store.DeleteEnds scene items
    (store.delete (.list items) scene).1 (store.delete (.list items) scene).2
  /-- They all say whether to retry, as long as no location is given but as a text. -/
  readable : ∀ items : List Datum, (∀ item ∈ items, ∀ own, item ≠ .location own) →
    ∀ failures cause, (store.delete (.list items) scene).1 =
      .error (.storage (.batchDelete failures) cause) → OnlyVerdicts failures

variable {store : BucketStore σ} {scene : Scene σ}

/-- To open a sink checks the place, and nothing is asked of the service. -/
theorem openSink_run (store : BucketStore σ) (source : Datum) (scene : Scene σ) :
    (∃ problem, source.toObjectLocation = .error (.ofLocation problem) ∧
      store.openSink source scene = (.error (.ofLocation problem), scene)) ∨
    ∃ location, source.toObjectLocation = .ok location ∧
      store.openSink source scene = (.ok ⟨location.text, store.commit location⟩, scene) := by
  unfold openSink
  cases place : source.toObjectLocation with
  | error fault =>
    obtain ⟨problem, rfl⟩ := Datum.toObjectLocation_error place
    exact .inl ⟨problem, rfl, rfl⟩
  | ok location => exact .inr ⟨location, rfl, rfl⟩

/-- A batch of texts fails with verdicts only: the authority of a parsed text is a bucket, so that
no group is refused on the way to its client. -/
theorem onlyVerdicts_of_texts (behaves : store.Behaves scene.remote) {items : List Datum}
    (texts : ∀ item ∈ items, ∀ own, item ≠ .location own) {failures : List (Text × Fault)}
    {cause : Cause} (failed : (store.delete (.list items) scene).1 =
      .error (.storage (.batchDelete failures) cause)) : OnlyVerdicts failures := by
  have ends := store.delete_ends behaves items
  rw [failed] at ends
  generalize (store.delete (.list items) scene).2 = after at ends
  cases ends with
  | failed fit effort fails told verdicts_iff =>
    apply verdicts_iff.mpr
    intro location inside
    obtain ⟨item, known, read⟩ := Except.mapM_ok fit inside
    exact Datum.not_misread read (texts item known)

/-- In front of a service that behaves, a store keeps its boundary. -/
theorem keepsBoundary (behaves : store.Behaves scene.remote) : store.KeepsBoundary scene where
  ping := store.ping_ends behaves
  read := store.read_ends behaves
  opened source := store.openSink_run source scene
  closed _ _ sink fit := store.closeSink_ends behaves (Datum.toObjectLocation_ok fit).2.2.1 sink
  deleted := store.delete_ends behaves
  readable _ texts _ _ failed := onlyVerdicts_of_texts behaves texts failed

end BucketStore

/-- A service that raises a fault at each request to change objects. -/
def readOnlyService : Remote Unit where
  now _ := .beginning
  build _ := pure (some ⟨0, true⟩)
  headBucket _ _ := pure ()
  getObject _ _ _ := pure (.body [])
  putObject _ _ _ _ := Act.fail (.mishap (.foreign "RuntimeError" "read only"))
  deleteObjects _ _ _ := Act.fail (.mishap (.foreign "RuntimeError" "read only"))
  close _ := pure ()

/-- A store of the read-only service. -/
def readOnlyStore : BucketStore Unit :=
  ⟨"pool", readOnlyService, ⟨.empty, [], none⟩, .options⟩

/-- The service that can only be read from behaves as a service should. -/
theorem readOnlyStore_behaves : readOnlyStore.Behaves () := by
  constructor
  · rintro _ _ _ _ ⟨⟩
  · rintro _ _ _ _ _ ⟨⟩
  · rintro _ _ _ _ _ _ ⟨⟩
  · rintro _ _ _ _ _ _ _ ⟨⟩
    exact ⟨rfl, Fault.judgeable_mishap rfl ..⟩
  · rintro _ _ _ _ _ _ ⟨⟩
    exact ⟨rfl, Fault.judgeable_mishap rfl ..⟩
  · rintro _ _ _ _ _ _ ⟨⟩
    exact ⟨_, rfl⟩
  · rintro _ _ _ _ _ _ ⟨⟩

theorem BucketStore.readOnlyStore_keepsBoundary :
    readOnlyStore.Behaves (Scene.start ()).remote ∧ readOnlyStore.KeepsBoundary (.start ()) :=
  ⟨readOnlyStore_behaves, keepsBoundary readOnlyStore_behaves⟩

/-- A location whose bucket has the mark of a location in its name. -/
def markedLocation : Location :=
  ⟨"s3", "://", "/k"⟩

/-- Objects in a bucket with the mark of a location in its name can be read, but a delete takes the
name for a location, and the failure of the batch is that it is none. -/
theorem readOnlyStore_delete_misreads :
    readOnlyStore.Behaves () ∧
    (Datum.location markedLocation).toObjectLocation = .ok markedLocation ∧
    (readOnlyStore.fetch markedLocation (.start ())).1 = .ok (.body []) ∧
    (readOnlyStore.delete (.list [.location markedLocation]) (.start ())).1 =
      .error (.storage (.batchDelete [("://", .storage (.invalidLocation (.badScheme "://")) .itself)])
        .nothing) ∧
    ¬ OnlyVerdicts [("://", .storage (.invalidLocation (.badScheme "://")) .itself)] := by
  refine ⟨readOnlyStore_behaves, rfl, rfl, rfl, fun verdicts => ?_⟩
  obtain ⟨problem, cause, same, verdict⟩ := verdicts _ List.mem_cons_self
  cases same
  cases verdict

end ObjectStorage
