import ObjectStorage.Proofs.Delete.Batch

/-!
# Best effort

Nothing that happens in one bucket keeps a batch delete from the others. Every bucket is attempted,
in the order of first appearance; its keys go out in order and in pieces of the allowed size, until
a call raises a fault; and exactly the buckets in which something failed are told of, once in the
failure of the batch and once in the log (`BucketStore.delete_best_effort`).
-/

namespace ObjectStorage

open Text

variable {σ : Type}

namespace Sent

variable {pieces : List (List Text)} {calls : List PieceCall}

/-- The pieces that were sent are the first ones. -/
theorem keys_leading (sent : Sent pieces calls) : calls.map PieceCall.keys <+: pieces := by
  induction sent with
  | nothing => exact List.prefix_rfl
  | answered response later ih => exact (List.prefix_cons_inj _).mpr ih
  | raised keys unsent fault => exact (List.prefix_cons_inj _).mpr List.nil_prefix

/-- Without a fault all pieces were sent. -/
theorem keys_whole (sent : Sent pieces calls) (calm : ∀ call ∈ calls, call.fault? = none) :
    calls.map PieceCall.keys = pieces := by
  induction sent with
  | nothing => rfl
  | answered response later ih =>
    rw [List.map_cons, ih fun call inside => calm call (List.mem_cons_of_mem _ inside)]
  | raised keys unsent fault => cases calm _ (List.mem_singleton_self _)

/-- Only the last call can have raised a fault. -/
theorem answered_before_last (sent : Sent pieces calls) :
    ∀ call ∈ calls.dropLast, call.fault? = none := by
  induction sent with
  | nothing => simp
  | @answered keys rest calls response later ih =>
    cases calls with
    | nil => simp
    | cons second others =>
      rw [List.dropLast_cons_of_ne_nil (List.cons_ne_nil second others)]
      exact List.forall_mem_cons.mpr ⟨rfl, ih⟩
  | raised keys unsent fault => simp

end Sent

/-- A call that raised a fault or whose response reports errors for single keys. -/
def PieceCall.fails (call : PieceCall) : Bool :=
  call.fault?.isSome || !call.reported.isEmpty

namespace Attempt

/-- There was no client, or a call failed. -/
def fails (attempt : Attempt) : Bool :=
  (match attempt.client with
    | .ok _ => false
    | .error _ => true) || attempt.calls.any PieceCall.fails

/-- The keys of an attempt go out in order and in pieces: all of them, unless there is no client or
a call, the last one then, raises a fault. -/
structure InPieces (attempt : Attempt) : Prop where
  nonempty : ∀ call ∈ attempt.calls, call.keys ≠ []
  bounded : ∀ call ∈ attempt.calls, call.keys.length ≤ batchLimit
  inOrder : attempt.calls.map PieceCall.keys <+: chunksOf batchLimit attempt.keys
  leading : attempt.calls.flatMap PieceCall.keys <+: attempt.keys
  whole : ∀ client, attempt.client = .ok client → (∀ call ∈ attempt.calls, call.fault? = none) →
    attempt.calls.flatMap PieceCall.keys = attempt.keys
  endsAtFault : ∀ call ∈ attempt.calls.dropLast, call.fault? = none
  unsent : ∀ fault, attempt.client = .error fault → attempt.calls = []

variable {store : BucketStore σ} {attempt : Attempt}

/-- A faithful attempt sends its keys in pieces. -/
theorem Faithful.inPieces (faithful : attempt.Faithful store) : attempt.InPieces := by
  cases client : attempt.client with
  | error fault =>
    have unsent : attempt.calls = [] := faithful.unsent fault client
    constructor
    · simp [unsent]
    · simp [unsent]
    · simp [unsent]
    · simp [unsent]
    · intro some same
      cases client.symm.trans same
    · simp [unsent]
    · exact fun _ _ => unsent
  | ok client' =>
    have sent : Sent (chunksOf batchLimit attempt.keys) attempt.calls :=
      faithful.sent client' client
    have isPiece : ∀ call ∈ attempt.calls, call.keys ∈ chunksOf batchLimit attempt.keys :=
      fun call inside => sent.keys_leading.subset (List.mem_map_of_mem inside)
    constructor
    · exact fun call inside => ne_nil_of_mem_chunksOf (isPiece call inside)
    · exact fun call inside => length_le_of_mem_chunksOf (by decide) (isPiece call inside)
    · exact sent.keys_leading
    · obtain ⟨unsent, split⟩ := sent.keys_leading
      refine ⟨unsent.flatten, ?_⟩
      rw [List.flatMap_def, ← List.flatten_append, split, flatten_chunksOf]
    · intro _ _ calm
      rw [List.flatMap_def, sent.keys_whole calm, flatten_chunksOf]
    · exact sent.answered_before_last
    · intro fault same
      cases client.symm.trans same

/-- A call of a row fails exactly if one raised a fault or reports errors. -/
theorem any_fails (calls : List PieceCall) : calls.any PieceCall.fails =
    ((calls.findSome? PieceCall.fault?).isSome || !(calls.flatMap PieceCall.reported).isEmpty) := by
  induction calls with
  | nil => rfl
  | cons call rest ih =>
    rw [List.any_cons, List.findSome?_cons, List.flatMap_cons, ih, PieceCall.fails]
    cases call.fault? <;> cases call.reported <;> simp

/-- An attempt fails exactly if a fault ended it or its responses report errors. -/
theorem fails_eq (attempt : Attempt) :
    attempt.fails = (attempt.raised?.isSome || !attempt.reported.isEmpty) := by
  unfold fails raised? reported
  cases attempt.client with
  | error fault => rfl
  | ok client => exact any_fails attempt.calls

/-- An attempt has a failure exactly if something failed in it. -/
theorem Faithful.failure?_isSome (faithful : attempt.Faithful store) :
    attempt.failure?.isSome = attempt.fails := by
  rw [fails_eq]
  cases raised : attempt.raised? with
  | some fault =>
    obtain ⟨problem, cause, failure, _⟩ := faithful.surfaced fault raised
    rw [failure]
    rfl
  | none =>
    cases reports : attempt.reported with
    | nil =>
      rw [faithful.clean raised reports]
      rfl
    | cons first rest =>
      obtain ⟨problem, _, failure⟩ :=
        faithful.collected raised (reports ▸ List.cons_ne_nil first rest)
      rw [failure]
      rfl

/-- The buckets that failures are told of are those of the attempts that failed, in their order. -/
theorem entries_map_fst {attempts : List Attempt} (faithful : ∀ attempt ∈ attempts,
    attempt.Faithful store) : (attempts.filterMap named?).map (·.1) =
      (attempts.filter fails).map bucket := by
  induction attempts with
  | nil => rfl
  | cons attempt rest ih =>
    obtain ⟨here, others⟩ := List.forall_mem_cons.mp faithful
    have told := here.failure?_isSome
    cases failure : attempt.failure? with
    | none =>
      rw [failure] at told
      rw [List.filterMap_cons_none (by simp only [named?, failure, Option.map_none]),
        List.filter_cons_of_neg (by rw [← told]; exact Bool.false_ne_true)]
      exact ih others
    | some failed =>
      rw [failure] at told
      rw [List.filterMap_cons_some (by simp only [named?, failure, Option.map_some]; rfl),
        List.filter_cons_of_pos told.symm, List.map_cons, List.map_cons, ih others]

/-- A batch fails exactly if one of its attempts does. -/
theorem verdict_ok_iff {attempts : List Attempt} (faithful : ∀ attempt ∈ attempts,
    attempt.Faithful store) : verdict attempts = .ok () ↔
      ∀ attempt ∈ attempts, attempt.fails = false := by
  have names := entries_map_fst faithful
  rw [verdict, batchEnd_ok_iff, ← List.map_eq_nil_iff, names, List.map_eq_nil_iff,
    List.filter_eq_nil_iff]
  simp only [Bool.not_eq_true]

end Attempt

namespace BucketStore

/-- What a batch delete of parsed locations did, from one scene to another, is a list of attempts:
one for each bucket, in the order of first appearance, and each with the keys that the locations
have in the bucket. -/
structure BestEffort (store : BucketStore σ) (parsed : List Location) (before : Scene σ)
    (attempts : List Attempt) (after : Scene σ) : Prop where
  buckets : attempts.map Attempt.bucket = (parsed.map Location.authority).eraseDups
  keys : ∀ attempt ∈ attempts, attempt.keys = keysIn parsed attempt.bucket
  faithful : ∀ attempt ∈ attempts, attempt.Faithful store
  pieces : ∀ attempt ∈ attempts, attempt.InPieces
  told : ∀ attempt ∈ attempts, attempt.failure?.isSome = attempt.fails
  unfolds : Scene.Unfolds store.pool before (attempts.flatMap Attempt.exchanges)
    (attempts.filterMap Attempt.record?) after

variable (store : BucketStore σ)

/-- A batch delete of fit locations makes its best effort. -/
theorem delete_attempts {locations : Datum} {items : List Datum} {parsed : List Location}
    (listed : locations.items = .ok items) (fit : items.mapM Datum.toObjectLocation = .ok parsed)
    (scene : Scene σ) (tame : store.TameFrom scene.remote) :
    ∃ (attempts : List Attempt) (after : Scene σ),
      store.delete locations scene = (Attempt.verdict attempts, after) ∧
      store.BestEffort parsed scene attempts after := by
  obtain ⟨attempts, after, ran, groups, faithful, unfolds⟩ := store.delete_run listed fit tame
  rw [keysByBucket_eq] at groups
  refine ⟨attempts, after, ran, ?_, ?_, faithful, ?_, ?_, unfolds⟩
  · have names := congrArg (List.map Prod.fst) groups
    simpa [List.map_map, Function.comp_def] using names
  · intro attempt inside
    have group : (attempt.bucket, attempt.keys) ∈
        (parsed.map Location.authority).eraseDups.map fun bucket =>
          (bucket, keysIn parsed bucket) :=
      groups ▸ List.mem_map_of_mem inside
    obtain ⟨bucket, _, same⟩ := List.mem_map.mp group
    obtain ⟨rfl, own⟩ := Prod.mk.inj same
    exact own.symm
  · exact fun attempt inside => (faithful attempt inside).inPieces
  · exact fun attempt inside => (faithful attempt inside).failure?_isSome

/-- A batch delete makes its best effort and fails exactly if an attempt does. Its failure is that
of a batch, and has the failing buckets in the order in which they were attempted. -/
theorem delete_best_effort {locations : Datum} {items : List Datum} {parsed : List Location}
    (listed : locations.items = .ok items) (fit : items.mapM Datum.toObjectLocation = .ok parsed)
    (scene : Scene σ) (tame : store.TameFrom scene.remote) :
    ∃ (attempts : List Attempt) (result : Except Fault Unit) (after : Scene σ),
      store.delete locations scene = (result, after) ∧
      store.BestEffort parsed scene attempts after ∧
      (result = .ok () ↔ ∀ attempt ∈ attempts, attempt.fails = false) ∧
      ∀ fault, result = .error fault →
        fault = .storage (.batchDelete (attempts.filterMap Attempt.named?)) .nothing ∧
        (attempts.filterMap Attempt.named?).map (·.1) =
          (attempts.filter Attempt.fails).map Attempt.bucket := by
  obtain ⟨attempts, after, ran, effort⟩ := store.delete_attempts listed fit scene tame
  have faithful := effort.faithful
  refine ⟨attempts, Attempt.verdict attempts, after, ran, effort, Attempt.verdict_ok_iff faithful,
    fun fault failed => ⟨?_, Attempt.entries_map_fst faithful⟩⟩
  exact (batchEnd_error_iff.mp failed).2

/-- The error of a service that refuses to delete a key. -/
def refusedKey : List (Text × Datum) :=
  [("Key", .text "k"), ("Code", .text "AccessDenied")]

/-- The response of a service that refuses to delete a key. -/
def refusal : Datum :=
  .table [("Errors", .list ([refusedKey].map .table))]

theorem refusal_isDeleteResponse : refusal.IsDeleteResponse :=
  .reporting rfl

/-- A service that makes no client for options with a region, raises a fault at each delete in the
bucket `raising`, and reports an error for a key of the bucket `reporting`. -/
def unsteadyService : Remote Unit where
  now _ := .beginning
  build options :=
    if options.region.truthy then Act.fail (.mishap (.foreign "RuntimeError" "no client"))
    else pure (some ⟨0, true⟩)
  headBucket _ _ := pure ()
  getObject _ _ _ := pure (.raw .null)
  putObject _ _ _ _ := pure ()
  deleteObjects _ bucket _ :=
    if bucket = "raising" then Act.fail (.mishap (.foreign "RuntimeError" "boom"))
    else if bucket = "reporting" then pure refusal
    else pure .null
  close _ := pure ()

/-- A store of the unsteady service, in which one bucket has a region. -/
def unsteadyStore : BucketStore Unit :=
  ⟨"pool", unsteadyService,
    ⟨.empty, [("distant", { ClientOptions.empty with region := .text "r" })], none⟩, .options⟩

/-- Faults and responses of the unsteady service are such that a store can deal with them. -/
theorem unsteadyStore_tame (start : Unit) : unsteadyStore.TameFrom start := by
  intro exchanges between exchange after _ happens
  cases exchange with
  | build options result =>
    cases result with
    | ok made => trivial
    | error fault =>
      change (if options.region.truthy then _ else _ : Act Unit (Option Client)) between = _
        at happens
      split at happens
      · cases happens
        exact Fault.judgeable_mishap rfl ..
      · cases happens
  | delete client bucket keys response =>
    change (if bucket = "raising" then _ else if bucket = "reporting" then _ else _ :
      Act Unit Datum) between = _ at happens
    split at happens
    · cases happens
      exact Fault.judgeable_mishap rfl ..
    · split at happens
      · cases happens
        exact refusal_isDeleteResponse
      · cases happens
        exact .nothing

/-- Locations in a bucket of each sort, two of them of one object. -/
def unsteadyLocations : List Datum :=
  [.text "s3://raising/a", .text "s3a://fine/b", .text "S3://distant/c", .text "s3://reporting/d",
    .text "s3n://raising/a"]

/-- What the locations read as. -/
def unsteadyPlaces : List Location :=
  [⟨"s3", "raising", "/a"⟩, ⟨"s3a", "fine", "/b"⟩, ⟨"s3", "distant", "/c"⟩,
    ⟨"s3", "reporting", "/d"⟩, ⟨"s3n", "raising", "/a"⟩]

/-- The buckets in which the unsteady service lets a delete fail. -/
def unsteadyBuckets : List Text :=
  ["raising", "distant", "reporting"]

/-- The buckets that the failure of a batch tells of. -/
def failedBuckets : Except Fault Unit → List Text
  | .error (.storage (.batchDelete failures) _) => failures.map (·.1)
  | _ => []

theorem unsteadyStore_fails :
    failedBuckets (unsteadyStore.delete (.list unsteadyLocations) (.start ())).1 =
      unsteadyBuckets := by
  decide +kernel

/-- In the unsteady service a delete tells of the bucket whose calls raise faults, of the one that
has no client, and of the one whose response lists an error; the fourth is attempted as well, and
nothing is told of it. -/
theorem unsteadyStore_delete_best_effort :
    (Datum.list unsteadyLocations).items = .ok unsteadyLocations ∧
    unsteadyLocations.mapM Datum.toObjectLocation = .ok unsteadyPlaces ∧
    unsteadyStore.TameFrom () ∧
    ∃ (attempts : List Attempt) (after : Scene Unit),
      unsteadyStore.delete (.list unsteadyLocations) (.start ()) =
        (.error (.storage (.batchDelete (attempts.filterMap Attempt.named?)) .nothing), after) ∧
      unsteadyStore.BestEffort unsteadyPlaces (.start ()) attempts after ∧
      attempts.map Attempt.bucket = (["raising", "fine", "distant", "reporting"] : List Text) ∧
      (attempts.filter Attempt.fails).map Attempt.bucket = unsteadyBuckets ∧
      (attempts.filterMap Attempt.named?).map (·.1) = unsteadyBuckets := by
  have listed : (Datum.list unsteadyLocations).items = .ok unsteadyLocations := rfl
  have fit : unsteadyLocations.mapM Datum.toObjectLocation = .ok unsteadyPlaces := rfl
  refine ⟨listed, fit, unsteadyStore_tame (), ?_⟩
  obtain ⟨attempts, result, after, ran, effort, _, told⟩ :=
    unsteadyStore.delete_best_effort listed fit (.start ()) (unsteadyStore_tame ())
  have named := unsteadyStore_fails
  rw [ran] at named
  cases result with
  | ok nothing => cases named
  | error fault =>
    obtain ⟨rfl, keyed⟩ := told fault rfl
    exact ⟨attempts, after, ran, effort, effort.buckets, keyed.symm.trans named, named⟩

end BucketStore

end ObjectStorage
