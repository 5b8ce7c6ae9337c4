import ObjectStorage.Proofs.Boundary.Operations
import ObjectStorage.Proofs.Clients.Registry
import ObjectStorage.Proofs.Delete.Batch

/-!
# Failures of the store that the service raises

What the service raises, at the making of a client or at a request, can be a failure of the store
already. Reads, commits and deletes judge it to be itself, so it surfaces with its kind, its text
and the time of the next try. But they raise it again from itself, and what it was raised from
before is lost (`BucketStore.passesOn`): its chain of causes has no end any more.
-/

namespace ObjectStorage

open Text

variable {σ α : Type}

namespace Fault

/-- What a fault tells in the terms of the store. -/
def problem? : Fault → Option StorageProblem
  | .storage problem _ => some problem
  | _ => none

/-- What a failure of the store was raised from. -/
def cause? : Fault → Option Cause
  | .storage _ cause => some cause
  | _ => none

/-- A failure of the store as it is when it has been raised from itself. -/
def reraised : Fault → Fault
  | .storage problem _ => .storage problem .itself
  | fault => fault

/-- The chain of causes of a fault ends at another fault, or at itself. -/
inductive TracesTo : Fault → Fault → Prop
  | foreign {fault : Fault} (foreign : fault.isStorage = false) : TracesTo fault fault
  | causeless (problem : StorageProblem) :
    TracesTo (.storage problem .nothing) (.storage problem .nothing)
  | behind (problem : StorageProblem) {cause origin : Fault} (later : TracesTo cause origin) :
    TracesTo (.storage problem (.fault cause)) origin

variable {raised : Fault}

/-- A failure of the store's own has a problem and a cause. -/
theorem exists_of_isStorage (own : raised.isStorage = true) :
    ∃ problem cause, raised = .storage problem cause :=
  raised.isStorage_cases.resolve_right (by simp [own])

/-- What a failure tells does not change when it is raised again. -/
theorem reraised_problem? (raised : Fault) : raised.reraised.problem? = raised.problem? := by
  cases raised <;> rfl

/-- A failure stays the same exactly if it was raised from itself before. -/
theorem reraised_eq_iff (own : raised.isStorage = true) :
    raised.reraised = raised ↔ raised.cause? = some .itself := by
  obtain ⟨problem, cause, rfl⟩ := exists_of_isStorage own
  constructor
  · intro same
    rw [← same]
    rfl
  · rintro ⟨⟩
    rfl

/-- The chain of a failure that is raised again does not end. -/
theorem reraised_endless (own : raised.isStorage = true) (origin : Fault) :
    ¬ raised.reraised.TracesTo origin := by
  obtain ⟨problem, cause, rfl⟩ := exists_of_isStorage own
  intro ends
  cases ends with
  | foreign foreign => cases foreign

end Fault

/-- A fault of an act is one of all that starts with it. -/
theorem Act.bind_fails {τ β : Type} {act : Act τ α} {next : α → Act τ β} {state : τ} {fault : Fault}
    (failed : (act state).1 = .error fault) : ((act >>= next) state).1 = .error fault :=
  congrArg Prod.fst (Act.bind_error (Prod.ext failed rfl))

/-- Counting an operation keeps the fault it ended in. -/
theorem Scene.tallied_fails (operation : Operation) {act : Act (Scene σ) α} {scene : Scene σ}
    {fault : Fault} (failed : (act scene).1 = .error fault) :
    (tallied operation act scene).1 = .error fault :=
  (tallied_result operation act scene).trans failed

/-- The service, asked to make a client for a target, raises a fault. -/
def ClientPool.MakingRaises (pool : ClientPool σ) (target : Datum) (scene : Scene σ)
    (raised : Fault) : Prop :=
  ∃ options : ClientOptions, pool.options.identityOf target = .ok options ∧ options.IsKey ∧
    (scene.pools pool.name).client? options = none ∧
    (pool.remote.build options scene.remote).1 = .error raised

/-- A failure of the store that comes instead of a client is one that the service raised, if the
target has an identity. -/
theorem ClientPool.clientWith_raises_iff (pool : ClientPool σ) (method : String) {target : Datum}
    {options : ClientOptions} (identity : pool.options.identityOf target = .ok options)
    {raised : Fault} (own : raised.isStorage = true) (scene : Scene σ) :
    (pool.clientWith method target scene).1 = .error raised ↔
      pool.MakingRaises target scene raised := by
  have answers := pool.clientAt_answers target scene
  unfold clientWith
  rcases ran : pool.clientAt target scene with ⟨result, after⟩
  rw [ran] at answers
  cases answers with
  | refused unnamed => cases identity.symm.trans unnamed
  | unkeyable named changes =>
    rw [Act.bind_error ran]
    -- What comes instead of a client here is a mishap.
    constructor
    · rintro ⟨⟩
      cases own
    · rintro ⟨_, again, isKey, _⟩
      cases named.symm.trans again
      cases changes.symm.trans isKey
  | kept named isKey known =>
    rw [Act.bind_ok ran]
    constructor
    · nofun
    · rintro ⟨_, again, _, unknown, _⟩
      cases named.symm.trans again
      cases known.symm.trans unknown
  | failed named isKey unknown built =>
    rw [Act.bind_error ran]
    constructor
    · rintro ⟨⟩
      exact ⟨_, named, isKey, unknown, by rw [built]⟩
    · rintro ⟨_, again, _, _, raises⟩
      cases named.symm.trans again
      rw [built] at raises
      cases raises
      rfl
  | @made _ client _ named isKey unknown built =>
    rw [Act.bind_ok ran]
    constructor
    · intro failed
      cases client with
      | none =>
        cases failed
        cases own
      | some client => cases failed
    · rintro ⟨_, again, _, _, raises⟩
      cases named.symm.trans again
      rw [built] at raises
      cases raises

namespace BucketStore

/-- In a visit the service raises a fault: at the making of the client, or at its request. -/
inductive VisitRaises (store : BucketStore σ) (method : String) (target : Datum)
    (act : Client → Act σ α) (scene : Scene σ) (raised : Fault) : Prop
  | making (raises : store.pool.MakingRaises target scene raised)
  | asking {client : Client} {opened : Scene σ}
      (got : store.pool.clientWith method target scene = (.ok client, opened))
      (raises : (act client opened.remote).1 = .error raised)

/-- In a read the service raises a fault. -/
def ReadRaises (store : BucketStore σ) (location : Location) (scene : Scene σ) (raised : Fault) :
    Prop :=
  store.VisitRaises "get_object" (.location location)
    (fun client => store.pool.remote.getObject client location.authority
      (Location.keyOfPath location.path)) scene raised

/-- In a commit the service raises a fault. -/
def CommitRaises (store : BucketStore σ) (location : Location) (payload : List UInt8)
    (scene : Scene σ) (raised : Fault) : Prop :=
  store.VisitRaises "put_object" (.location location)
    (fun client => store.pool.remote.putObject client location.authority
      (Location.keyOfPath location.path) payload) scene raised

/-- In a bucket of a batch the service raises a fault: at the making of the client, or at a piece of
the keys after it has answered to those in front. -/
inductive BucketRaises (store : BucketStore σ) (bucket : Text) (keys : List Text) (scene : Scene σ)
    (raised : Fault) : Prop
  | making (raises : store.pool.MakingRaises (.text bucket) scene raised)
  | asking {client : Client} {opened between : Scene σ} {front rest : List (List Text)}
      {piece : List Text} {errors : List Datum}
      (got : store.pool.clientWith "delete_objects" (.text bucket) scene = (.ok client, opened))
      (pieces : chunksOf batchLimit keys = front ++ piece :: rest)
      (answered : store.deletePieces client bucket front opened = (.ok errors, between))
      (raises : (store.pool.remote.deleteObjects client bucket piece between.remote).1 =
        .error raised)

variable {store : BucketStore σ} {scene between : Scene σ} {raised : Fault}

/-- A visit fails with a failure of the store exactly if the service raises it. -/
theorem visit_raises_iff {method : String} {target : Datum} {options : ClientOptions}
    (identity : store.pool.options.identityOf target = .ok options)
    (own : raised.isStorage = true) (request : Client → Request) (act : Client → Act σ α) :
    (store.visit method target request act scene).1 = .error raised ↔
      store.VisitRaises method target act scene raised := by
  have making := store.pool.clientWith_raises_iff method identity own scene
  unfold visit
  rcases got : store.pool.clientWith method target scene with ⟨result, opened⟩
  rw [got] at making
  cases result with
  | error fault =>
    rw [Act.bind_error got]
    constructor
    · rintro ⟨⟩
      exact .making (making.mp rfl)
    · rintro (raises | ⟨other, _⟩)
      · cases making.mpr raises
        rfl
      · cases got.symm.trans other
  | ok client =>
    rw [Act.bind_ok got, Scene.ask_apply]
    constructor
    · exact .asking got
    · rintro (raises | ⟨again, raises⟩)
      · cases making.mpr raises
      · cases got.symm.trans again
        exact raises

/-- A guard raises a failure of the store again. -/
theorem guarded_own (own : raised.isStorage = true) (message : Text) {act : Act (Scene σ) α}
    (failed : (act scene).1 = .error raised) :
    (store.guarded message act scene).1 = .error raised.reraised := by
  obtain ⟨problem, cause, rfl⟩ := Fault.exists_of_isStorage own
  rw [store.guarded_judged (Prod.ext failed rfl) rfl]
  rfl

/-- What a delete in a bucket asks for after the first pieces of its keys. -/
theorem deletePieces_append {client : Client} {bucket : Text} (rest : List (List Text))
    {front : List (List Text)} {errors : List Datum}
    (answered : store.deletePieces client bucket front scene = (.ok errors, between)) :
    store.deletePieces client bucket (front ++ rest) scene =
      (do return errors ++ (← store.deletePieces client bucket rest)) between := by
  -- The first pieces may end in a fault, too, so that the induction is on acts and not on a run.
  have whole : ∀ pieces, store.deletePieces client bucket (pieces ++ rest) = do
      let early ← store.deletePieces client bucket pieces
      return early ++ (← store.deletePieces client bucket rest) := by
    intro pieces
    induction pieces with
    | nil => exact (bind_pure _).symm
    | cons keys others ih =>
      rw [List.cons_append, deletePieces_cons, deletePieces_cons, ih]
      simp only [bind_assoc, pure_bind, List.append_assoc]
  rw [whole, Act.bind_ok answered]

/-- A delete in a bucket raises a failure again that the service raises there. -/
theorem deleteFrom_raised (own : raised.isStorage = true) {bucket : Text} {keys : List Text}
    (raises : store.BucketRaises bucket keys scene raised) :
    (store.deleteFrom bucket keys scene).1 = .error raised.reraised := by
  cases raises with
  | making raises =>
    have ⟨options, identity, _⟩ := raises
    have clientless := (store.pool.clientWith_raises_iff "delete_objects" identity own scene).mpr
      raises
    exact Act.bind_fails (guarded_own own _ clientless)
  | @asking client opened between front rest piece errors got pieces answered raises =>
    have asked : (store.askToDelete client bucket piece between).1 = .error raised.reraised :=
      guarded_own own (Attempt.words bucket) raises
    have ended : (store.deletePieces client bucket (chunksOf batchLimit keys) opened).1 =
        .error raised.reraised := by
      rw [pieces, deletePieces_append _ answered, deletePieces_cons]
      exact Act.bind_fails (Act.bind_fails asked)
    unfold deleteFrom
    rw [Act.bind_ok (store.guarded_ok got)]
    exact Act.bind_fails ended

/-- What a batch asks for after its first groups, if nothing stops them. -/
theorem deleteGroups_append {front : List (Text × List Text)} (rest : List (Text × List Text))
    {failures : List (Text × Fault)}
    (ran : store.deleteGroups front scene = (.ok failures, between)) :
    store.deleteGroups (front ++ rest) scene =
      (do return failures ++ (← store.deleteGroups rest)) between := by
  induction front generalizing scene failures with
  | nil =>
    cases ran
    exact congrFun (bind_pure _).symm _
  | cons group others ih =>
    obtain ⟨bucket, keys⟩ := group
    rcases store.deleteGroups_ran ran with
      ⟨next, tried, later⟩ | ⟨fault, _, next, behind, _, rfl, later, goes⟩
    · exact (store.deleteGroups_ok tried _).trans (ih later)
    -- What the group left in front of the failures stays there.
    · rw [List.cons_append, goes, Act.bind_apply, ih later, Act.bind_apply, Act.bind_apply]
      rcases store.deleteGroups rest between with ⟨_ | _, _⟩ <;> rfl

/-- A store passes on what the service raises in a scene, raised again. -/
structure PassesOn (store : BucketStore σ) (scene : Scene σ) (raised : Fault) : Prop where
  /-- A read fails with it, -/
  read : ∀ (source : Datum) (location : Location), source.toObjectLocation = .ok location →
    store.ReadRaises location scene raised →
    (store.read source scene).1 = .error raised.reraised
  /-- and so does closing a sink that has something to commit. -/
  close : ∀ (source : Datum) (location : Location), source.toObjectLocation = .ok location →
    ∀ name payload, store.CommitRaises location payload scene raised →
    ∃ after, store.closeSink location (⟨name, .collecting, some payload⟩, scene) =
      (.error raised.reraised, (⟨name, .closed, none⟩, after))
  /-- It is the entry of its bucket in the failure of a batch, unless what comes behind stops it. -/
  delete : ∀ (locations : Datum) (items : List Datum) (parsed : List Location),
    locations.items = .ok items → items.mapM Datum.toObjectLocation = .ok parsed →
    ∀ front bucket keys rest failures between,
      keysByBucket parsed = front ++ (bucket, keys) :: rest →
      store.deleteGroups front scene = (.ok failures, between) →
      store.BucketRaises bucket keys between raised →
      ∃ next, store.deleteGroups (front ++ [(bucket, keys)]) scene =
          (.ok (failures ++ [(bucket, raised.reraised)]), next) ∧
        (store.delete locations scene).1 = (store.deleteGroups rest next).1.bind fun others =>
          .error (.storage (.batchDelete (failures ++ [(bucket, raised.reraised)] ++ others))
            .nothing)

/-- A visit fails with what the service raises in it. -/
theorem VisitRaises.guarded {method : String} {target : Datum} {act : Client → Act σ α}
    (raises : store.VisitRaises method target act scene raised) (own : raised.isStorage = true)
    {options : ClientOptions} (identity : store.pool.options.identityOf target = .ok options)
    (request : Client → Request) (message : Text) :
    (store.guarded message (store.visit method target request act) scene).1 =
      .error raised.reraised :=
  guarded_own own message ((visit_raises_iff identity own request act).mpr raises)

/-- What the calls of a read raise, if it is a failure of the store's own, leaves the read reraised.
-/
theorem read_raised (own : raised.isStorage = true) {source : Datum} {location : Location}
    (fit : source.toObjectLocation = .ok location)
    (raises : store.ReadRaises location scene raised) :
    (store.read source scene).1 = .error raised.reraised := by
  have named := (Datum.toObjectLocation_ok fit).2.2.1
  apply Scene.tallied_fails
  rw [fit, Act.bind_ok (Act.ofExcept_apply _ scene)]
  apply Act.bind_fails
  exact raises.guarded own (identityOf_location named) (getRequest location) _

/-- So it does where a sink is closed: the sink ends closed and without its buffer. -/
theorem closeSink_raised (own : raised.isStorage = true) {location : Location}
    (named : location.needAuthority = .ok location.authority) (name : Text) {payload : List UInt8}
    (raises : store.CommitRaises location payload scene raised) :
    ∃ after, store.closeSink location (⟨name, .collecting, some payload⟩, scene) =
      (.error raised.reraised, (⟨name, .closed, none⟩, after)) := by
  have failed : (store.commit location payload scene).1 = .error raised.reraised :=
    Scene.tallied_fails .write
      (raises.guarded own (identityOf_location named) (putRequest payload location) _)
  refine ⟨(store.commit location payload scene).2, ?_⟩
  rw [← failed]
  rfl

/-- The failure of a bucket stands behind those of the buckets in front of it. -/
theorem deleteGroups_raised (own : raised.isStorage = true) {front : List (Text × List Text)}
    {bucket : Text} {keys : List Text} {failures : List (Text × Fault)}
    (ran : store.deleteGroups front scene = (.ok failures, between))
    (raises : store.BucketRaises bucket keys between raised) :
    ∃ next, store.deleteGroups (front ++ [(bucket, keys)]) scene =
      (.ok (failures ++ [(bucket, raised.reraised)]), next) := by
  have failed := deleteFrom_raised own raises
  obtain ⟨problem, cause, rfl⟩ := Fault.exists_of_isStorage own
  obtain ⟨next, _, goes⟩ := store.deleteGroups_failed (Prod.ext failed rfl)
  refine ⟨next, ?_⟩
  rw [deleteGroups_append _ ran, Act.bind_ok (goes [])]
  rfl

/-- A batch whose first groups left failures ends with these and those of the other groups, unless
one of those stops it. -/
theorem delete_failing {locations : Datum} {items : List Datum} {parsed : List Location}
    (listed : locations.items = .ok items) (fit : items.mapM Datum.toObjectLocation = .ok parsed)
    {front rest : List (Text × List Text)} (groups : keysByBucket parsed = front ++ rest)
    {failures : List (Text × Fault)} (failing : failures ≠ [])
    (ran : store.deleteGroups front scene = (.ok failures, between)) :
    (store.delete locations scene).1 = (store.deleteGroups rest between).1.bind fun others =>
      .error (.storage (.batchDelete (failures ++ others)) .nothing) := by
  have whole := deleteGroups_append rest ran
  rw [← groups] at whole
  rcases later : store.deleteGroups rest between with ⟨result, after⟩
  cases result with
  | error fault =>
    rw [Act.bind_error later] at whole
    obtain ⟨counters, ended⟩ := store.delete_parsed listed fit whole
    exact congrArg Prod.fst ended
  | ok others =>
    rw [Act.bind_ok later] at whole
    obtain ⟨counters, ended⟩ := store.delete_parsed listed fit whole
    rw [ended]
    cases failures with
    | nil => exact (failing rfl).elim
    | cons first more => rfl

/-- A failure of the store that the service raises, at the making of a client or at a request,
surfaces from a read, from the commit of a sink and for its bucket of a batch with all that it
tells: its kind, its text and the time of the next try. But it was raised again from itself. So it
is the same as before only if it was its own cause already, and its chain of causes does not
end. -/
theorem passesOn (store : BucketStore σ) (scene : Scene σ) {raised : Fault}
    (own : raised.isStorage = true) : store.PassesOn scene raised ∧
      raised.reraised.problem? = raised.problem? ∧
      (raised.reraised = raised ↔ raised.cause? = some .itself) ∧
      ∀ origin, ¬ raised.reraised.TracesTo origin := by
  refine ⟨⟨?_, ?_, ?_⟩, raised.reraised_problem?, Fault.reraised_eq_iff own,
    Fault.reraised_endless own⟩
  · exact fun source location fit raises => read_raised own fit raises
  · exact fun source location fit name payload raises =>
      closeSink_raised own (Datum.toObjectLocation_ok fit).2.2.1 name raises
  · intro locations items parsed listed fit front bucket keys rest failures between groups ran
      raises
    obtain ⟨next, failed⟩ := deleteGroups_raised own ran raises
    refine ⟨next, failed, delete_failing listed fit ?_ (by simp) failed⟩
    rw [groups, List.append_cons]

/-- A failure of the store that was raised from nothing. -/
def bareFailure : Fault :=
  .storage (.nonRetryable "m" false) .nothing

/-- A service that raises a failure of the store at each request for an object. -/
def relayingService : Remote Unit where
  now _ := .beginning
  build _ := pure (some ⟨0, true⟩)
  headBucket _ _ := pure ()
  getObject _ _ _ := Act.fail bareFailure
  putObject _ _ _ _ := Act.fail bareFailure
  deleteObjects _ _ _ := Act.fail bareFailure
  close _ := pure ()

/-- A store of the relaying service. -/
def relayingStore : BucketStore Unit :=
  ⟨"pool", relayingService, ⟨.empty, [], none⟩, .options⟩

theorem relayingStore_passesOn :
    bareFailure.isStorage = true ∧
    relayingStore.ReadRaises ⟨"s3", "b", "/k"⟩ (.start ()) bareFailure ∧
    relayingStore.CommitRaises ⟨"s3", "b", "/k"⟩ [1] (.start ()) bareFailure ∧
    relayingStore.BucketRaises "b" ["k"] (.start ()) bareFailure ∧
    relayingStore.PassesOn (.start ()) bareFailure ∧
    bareFailure.reraised.problem? = bareFailure.problem? ∧
    (bareFailure.reraised = bareFailure ↔ bareFailure.cause? = some .itself) ∧
    ∀ origin, ¬ bareFailure.reraised.TracesTo origin :=
  have pieces (key : Text) : chunksOf batchLimit [key] = [] ++ [key] :: [] := by
    simp [chunksOf]
  ⟨rfl, .asking rfl rfl, .asking rfl rfl, .asking rfl (pieces "k") rfl rfl,
    relayingStore.passesOn (.start ()) rfl⟩

/-- A failure that a service raises in a read surfaces as another one: from itself. -/
theorem relayingStore_loses_cause :
    relayingStore.ReadRaises ⟨"s3", "b", "/k"⟩ (.start ()) bareFailure ∧
    bareFailure.TracesTo bareFailure ∧
    (relayingStore.read (.text "s3://b/k") (.start ())).1 =
      .error (.storage (.nonRetryable "m" false) .itself) ∧
    Fault.storage (.nonRetryable "m" false) .itself ≠ bareFailure ∧
    ∀ origin, ¬ (Fault.storage (.nonRetryable "m" false) .itself).TracesTo origin :=
  ⟨.asking rfl rfl, .causeless _, rfl, nofun,
    Fault.reraised_endless (show bareFailure.isStorage = true from rfl)⟩

end BucketStore

end ObjectStorage
