import ObjectStorage.Proofs.Boundary.Visits
import ObjectStorage.Proofs.Clients.Asking
import ObjectStorage.Proofs.Objects.Deletes

/-!
# Deletes with a steady service

A service is steady if what went wrong once goes wrong each time: the making of the clients for some
options, and the deletes in some buckets (`BucketStore.Steady`). Then it does not depend on what was
asked before which buckets of a batch fail and how, and the others lose exactly the keys of the
batch (`BucketStore.deleteGroups_steady`).
-/

namespace ObjectStorage

open Text Time

variable {σ : Type}

/-- What goes wrong with a service each time: the making of clients for options, by what the options
stand for, and the deletes in buckets. -/
structure Habits where
  unmade? : KeyValue → Option Fault
  undeleted? : Text → Option Fault

/-- From a state on, a service keeps to its habits. Where nothing goes wrong it makes a client, and
deletes the keys of a request without errors; where something does, it is a fault that can be judged
and the objects stay. -/
structure BucketStore.Steady (store : BucketStore σ) (objects : σ → Objects) (habits : Habits)
    (start : σ) : Prop where
  building : ∀ state options, store.pool.remote.Leads start state →
    objects (store.pool.remote.build options state).2 = objects state
  built : ∀ state options, store.pool.remote.Leads start state →
    habits.unmade? options.key = none →
      ∃ client, (store.pool.remote.build options state).1 = .ok (some client)
  unbuilt : ∀ state options fault, store.pool.remote.Leads start state →
    habits.unmade? options.key = some fault →
      (store.pool.remote.build options state).1 = .error fault ∧
        store.CanJudge fault (store.pool.remote.build options state).2
  deleted : ∀ state client bucket keys, store.pool.remote.Leads start state →
    habits.undeleted? bucket = none →
      (∃ response, (store.pool.remote.deleteObjects client bucket keys state).1 = .ok response ∧
        keyErrors response = .ok []) ∧
      objects (store.pool.remote.deleteObjects client bucket keys state).2 =
        (objects state).without fun place => place.1 == bucket && keys.contains place.2
  undeleted : ∀ state client bucket keys fault, store.pool.remote.Leads start state →
    habits.undeleted? bucket = some fault →
      (store.pool.remote.deleteObjects client bucket keys state).1 = .error fault ∧
      store.CanJudge fault (store.pool.remote.deleteObjects client bucket keys state).2 ∧
      objects (store.pool.remote.deleteObjects client bucket keys state).2 = objects state

/-- The failure that is recorded for a fault in a bucket at an instant. -/
def BucketStore.failureAt (store : BucketStore σ) (now : Instant) (bucket : Text) :
    Fault → Except Fault Fault
  | .storage problem _ => .ok (.storage problem .itself)
  | fault => do
    let verdict ← Verdict.ofFault
      ⟨now, store.pool.options.retryAfter, Attempt.words bucket⟩ fault
    return .storage verdict.problem (.fault fault)

/-- The failure that is recorded for a fault is throttled, whenever it is recorded. -/
def Fault.slows : Fault → Bool
  | .storage problem _ => (Fault.storage problem .itself).isThrottled
  | fault => fault.asksToSlowDown matches .ok true

namespace BucketStore

variable (store : BucketStore σ)

/-- A fault that is not the store's own is judged by its verdict. -/
theorem failureAt_foreign {fault : Fault} (foreign : fault.isStorage = false) (now : Instant)
    (bucket : Text) : store.failureAt now bucket fault = (do
      let verdict ← Verdict.ofFault
        ⟨now, store.pool.options.retryAfter, Attempt.words bucket⟩ fault
      return .storage verdict.problem (.fault fault)) := by
  cases fault with
  | storage => cases foreign
  | _ => rfl

/-- Whether a recorded failure is throttled does not depend on the instant. -/
theorem failureAt_isThrottled {now : Instant} {bucket : Text} {fault failure : Fault}
    (recorded : store.failureAt now bucket fault = .ok failure) :
    failure.isThrottled = fault.slows := by
  rcases fault.isStorage_cases with ⟨problem, cause, rfl⟩ | foreign
  · cases recorded
    rfl
  · rw [store.failureAt_foreign foreign] at recorded
    obtain ⟨verdict, given, recorded⟩ := Except.bind_ok recorded
    cases recorded
    have slows : fault.slows = (fault.asksToSlowDown matches .ok true) := by
      cases fault with
      | storage => cases foreign
      | _ => rfl
    rw [slows]
    rcases (Verdict.ofFault_ok given).2 with ⟨asked, resumeAt, problem⟩ | ⟨asked, problem⟩
    · rw [problem, asked]
      rfl
    · rw [problem, asked]
      rfl

/-- A fault that can be judged is recorded, and nothing but the journal changes on the way. -/
theorem guarded_failureAt {α : Type} (bucket : Text) {act : Act (Scene σ) α}
    {scene between : Scene σ} {fault : Fault} (ran : act scene = (.error fault, between))
    (judgeable : store.CanJudge fault between.remote) :
    ∃ problem cause journal,
      store.failureAt (store.pool.remote.now between.remote) bucket fault =
        .ok (.storage problem cause) ∧
      store.guarded (Attempt.words bucket) act scene =
        (.error (.storage problem cause), { between with journal }) := by
  rw [store.guarded_judged ran judgeable.1]
  rcases fault.isStorage_cases with ⟨problem, cause, rfl⟩ | foreign
  · exact ⟨problem, .itself, between.journal, rfl, rfl⟩
  · obtain ⟨verdict, given⟩ :=
      (judgeable.2.resolve_left (Bool.eq_false_iff.mp foreign)) (Attempt.words bucket)
    refine ⟨verdict.problem, .fault fault, _, ?_, failJudged_verdict foreign given between⟩
    rw [store.failureAt_foreign foreign, given]
    rfl

end BucketStore

namespace PoolState

variable {state : PoolState} {options other : ClientOptions}

/-- To ask for a client keeps the clients that there are. -/
theorem client?_enter (state : PoolState) (options other : ClientOptions) :
    (state.enter options).client? other = state.client? other := by
  unfold client?
  rw [enter_clients]

/-- Keeping what was made for options changes the client of these options and of no others. -/
theorem Tidy.client?_keep (tidy : state.Tidy) (isKey : options.IsKey) (otherIsKey : other.IsKey)
    (made : Option Client) : ((state.enter options).keep options made).client? other =
      if other.key = options.key then made else state.client? other := by
  have entered := tidy.enter isKey
  have kept := entered.keep isKey (tidy.mem_enter isKey) made
  have sameTable : (state.enter options).table = state.table := by
    unfold table
    rw [enter_clients]
  rw [client?_eq kept.keys otherIsKey, keep_table entered.keys isKey, lookup_putEntry, sameTable,
    client?_eq tidy.keys otherIsKey]
  split <;> rfl

end PoolState

namespace BucketStore

variable (store : BucketStore σ) (objects : σ → Objects) (habits : Habits)

/-- What goes wrong when the client for a bucket is asked for, if anything does. -/
def unhad? (state : PoolState) (bucket : Text) : Option Fault :=
  match store.pool.options.identityOf (.text bucket) with
  | .error fault => some fault
  | .ok options =>
    match options.toDatum.unkeyable? with
    | some typeName => some (.mishap (.unkeyable typeName))
    | none => if (state.client? options).isSome then none else habits.unmade? options.key

/-- What goes wrong with a delete in a bucket, if anything does. -/
def fails? (state : PoolState) (bucket : Text) : Option Fault :=
  (store.unhad? habits state bucket).or (habits.undeleted? bucket)

/-- A failure may be recorded for a fault in a bucket, at an instant that there is from a state
on. -/
def Records (start : σ) (bucket : Text) (fault failure : Fault) : Prop :=
  ∃ state, store.pool.remote.Leads start state ∧
    store.failureAt (store.pool.remote.now state) bucket fault = .ok failure

/-- A scene on the way of deletes: the service has gone on from its state at the start, and the same
clients cannot be had. -/
structure Along (start scene : Scene σ) : Prop where
  led : store.pool.remote.Leads start.remote scene.remote
  tidy : (scene.pools store.pool.name).Tidy
  same : ∀ bucket, store.unhad? habits (scene.pools store.pool.name) bucket =
    store.unhad? habits (start.pools store.pool.name) bucket

variable {store objects habits} {start scene : Scene σ}

/-- A scene in which the pool is tidy lies along the way from itself. -/
theorem Along.here (tidy : (start.pools store.pool.name).Tidy) : store.Along habits start start :=
  ⟨.here, tidy, fun _ => rfl⟩

/-- What goes on without the pool stays on the way. -/
theorem Along.moved (along : store.Along habits start scene) {remote : σ}
    (led : store.pool.remote.Leads start.remote remote) (journal : Journal) :
    store.Along habits start ⟨remote, scene.pools, journal⟩ :=
  ⟨led, along.tidy, along.same⟩

/-- A bucket whose options have a client is had; another one is had if the service makes the client.
-/
theorem unhad?_eq {state : PoolState} {bucket : Text} {options : ClientOptions}
    (identity : store.pool.options.identityOf (.text bucket) = .ok options)
    (isKey : options.IsKey) : store.unhad? habits state bucket =
      if (state.client? options).isSome then none else habits.unmade? options.key := by
  unfold unhad?
  simp only [identity, show options.toDatum.unkeyable? = none from isKey]

/-- Asking for options whose client cannot be made leaves the same clients out of reach. -/
theorem unhad?_enter (state : PoolState) (options : ClientOptions) (bucket : Text) :
    store.unhad? habits (state.enter options) bucket = store.unhad? habits state bucket := by
  unfold unhad?
  simp only [PoolState.client?_enter]

/-- So does making the client of options for which nothing goes wrong. -/
theorem unhad?_keep {state : PoolState} {options : ClientOptions} (tidy : state.Tidy)
    (isKey : options.IsKey) (makeable : habits.unmade? options.key = none) (client : Client)
    (bucket : Text) :
    store.unhad? habits ((state.enter options).keep options (some client)) bucket =
      store.unhad? habits state bucket := by
  unfold unhad?
  split
  · rfl
  · next other _ =>
    split
    · rfl
    · next otherIsKey =>
      rw [tidy.client?_keep isKey otherIsKey]
      by_cases same : other.key = options.key
      · rw [if_pos same, same, makeable]
        simp
      · rw [if_neg same]

section Deletes

variable (steady : store.Steady objects habits start.remote)
include steady

/-- When no client was made for options, that goes wrong each time. -/
theorem Steady.unmade {state after : σ} (led : store.pool.remote.Leads start.remote state)
    {options : ClientOptions} {fault : Fault}
    (built : store.pool.remote.build options state = (.error fault, after)) :
    habits.unmade? options.key = some fault ∧ store.CanJudge fault after ∧
      store.pool.remote.Leads start.remote after ∧ objects after = objects state := by
  have unmade : habits.unmade? options.key = some fault := by
    cases makes : habits.unmade? options.key with
    | none =>
      obtain ⟨client, made⟩ := steady.built state options led makes
      rw [built] at made
      cases made
    | some other =>
      obtain ⟨raised, _⟩ := steady.unbuilt state options other led makes
      rw [built] at raised
      cases raised
      rfl
  have judgeable := (steady.unbuilt state options fault led unmade).2
  have goesOn := led.build options
  have still := steady.building state options led
  rw [built] at judgeable goesOn still
  exact ⟨unmade, judgeable, goesOn, still⟩

/-- When the service answered, it made a client, and does so each time. -/
theorem Steady.made {state after : σ} (led : store.pool.remote.Leads start.remote state)
    {options : ClientOptions} {client : Option Client}
    (built : store.pool.remote.build options state = (.ok client, after)) :
    habits.unmade? options.key = none ∧ (∃ own, client = some own) ∧
      store.pool.remote.Leads start.remote after ∧ objects after = objects state := by
  have makeable : habits.unmade? options.key = none := by
    cases makes : habits.unmade? options.key with
    | none => rfl
    | some other =>
      obtain ⟨raised, _⟩ := steady.unbuilt state options other led makes
      rw [built] at raised
      cases raised
  obtain ⟨own, made⟩ := steady.built state options led makeable
  have goesOn := led.build options
  have still := steady.building state options led
  rw [built] at made goesOn still
  exact ⟨makeable, ⟨own, Except.ok.inj made⟩, goesOn, still⟩

/-- The client for a bucket comes, or what goes wrong each time goes wrong. -/
theorem clientWith_steady (along : store.Along habits start scene) (bucket : Text) :
    ∃ after, store.Along habits start after ∧ objects after.remote = objects scene.remote ∧
      ((store.unhad? habits (start.pools store.pool.name) bucket = none ∧ ∃ client,
          store.pool.clientWith "delete_objects" (.text bucket) scene = (.ok client, after)) ∨
        ∃ fault, store.unhad? habits (start.pools store.pool.name) bucket = some fault ∧
          store.pool.clientWith "delete_objects" (.text bucket) scene = (.error fault, after) ∧
          store.CanJudge fault after.remote) := by
  have answers := store.pool.clientAt_answers (.text bucket) scene
  rcases asked : store.pool.clientAt (.text bucket) scene with ⟨result, after⟩
  rw [asked] at answers
  have failed {fault : Fault} (raised : result = .error fault) :
      store.pool.clientWith "delete_objects" (.text bucket) scene = (.error fault, after) :=
    Act.bind_error (raised ▸ asked)
  have got {client : Client} (answered : result = .ok (some client)) :
      store.pool.clientWith "delete_objects" (.text bucket) scene = (.ok client, after) :=
    (Act.bind_ok (answered ▸ asked)).trans rfl
  cases answers with
  | @refused fault identity =>
    refine ⟨after, along, rfl, .inr ⟨fault, ?_, failed rfl, ?_⟩⟩
    · unfold unhad?
      rw [identity]
    · obtain ⟨problem, rfl⟩ := StoreOptions.identityOf_error identity
      exact Fault.judgeable_storage ..
  | unkeyable identity changes =>
    refine ⟨after, along, rfl, .inr ⟨_, ?_, failed rfl, Fault.judgeable_mishap rfl _ _⟩⟩
    unfold unhad?
    simp only [identity, changes]
  | @kept options client identity isKey known =>
    refine ⟨after, along, rfl, .inl ⟨?_, client, got rfl⟩⟩
    rw [← along.same, unhad?_eq identity isKey, known]
    rfl
  | @failed options fault after identity isKey unknown built state journal =>
    obtain ⟨unmade, judgeable, led, still⟩ := steady.unmade along.led built
    refine ⟨after, ⟨led, state ▸ along.tidy.enter isKey, fun other => ?_⟩, still,
      .inr ⟨fault, ?_, failed rfl, judgeable⟩⟩
    · rw [state, unhad?_enter, along.same]
    · rw [← along.same, unhad?_eq identity isKey, unknown, unmade]
      rfl
  | @made options client after identity isKey unknown built state journal =>
    obtain ⟨makeable, ⟨own, rfl⟩, led, still⟩ := steady.made along.led built
    have entered := along.tidy.enter isKey
    refine ⟨after, ⟨led, state ▸ entered.keep isKey (along.tidy.mem_enter isKey) _,
      fun other => ?_⟩, still, .inl ⟨?_, own, got rfl⟩⟩
    · rw [state, unhad?_keep along.tidy isKey makeable, along.same]
    · rw [← along.same, unhad?_eq identity isKey, unknown, makeable]
      rfl

/-- A request to delete keys removes them, or what goes wrong each time goes wrong. -/
theorem askToDelete_steady (along : store.Along habits start scene) (client : Client)
    (bucket : Text) (keys : List Text) : ∃ after, store.Along habits start after ∧
      ((habits.undeleted? bucket = none ∧
        objects after.remote = (objects scene.remote).without
          (fun place => place.1 == bucket && keys.contains place.2) ∧
        ∃ response, store.askToDelete client bucket keys scene = (.ok response, after) ∧
          keyErrors response = .ok []) ∨
      ∃ fault problem cause, habits.undeleted? bucket = some fault ∧
        objects after.remote = objects scene.remote ∧
        store.askToDelete client bucket keys scene = (.error (.storage problem cause), after) ∧
        store.Records start.remote bucket fault (.storage problem cause)) := by
  have led := along.led.delete client bucket keys
  have asked := Scene.ask_apply (.deleteObjects client.number bucket keys)
    (store.pool.remote.deleteObjects client bucket keys) scene
  cases goes : habits.undeleted? bucket with
  | none =>
    obtain ⟨⟨response, answered, clean⟩, removed⟩ :=
      steady.deleted _ client bucket keys along.led goes
    rw [answered] at asked
    exact ⟨_, along.moved led _, .inl ⟨rfl, removed, response, store.guarded_ok asked, clean⟩⟩
  | some fault =>
    obtain ⟨raised, judgeable, still⟩ :=
      steady.undeleted _ client bucket keys fault along.led goes
    rw [raised] at asked
    obtain ⟨problem, cause, journal, recorded, ran⟩ :=
      store.guarded_failureAt bucket asked judgeable
    exact ⟨_, along.moved led _, .inr ⟨fault, problem, cause, rfl, still, ran, _, led, recorded⟩⟩

/-- All pieces of keys are removed, or the first request meets what goes wrong each time. -/
theorem deletePieces_steady (along : store.Along habits start scene) (client : Client)
    (bucket : Text) {pieces : List (List Text)} (filled : pieces ≠ []) :
    ∃ after, store.Along habits start after ∧
      ((habits.undeleted? bucket = none ∧
        objects after.remote = (objects scene.remote).without
          (fun place => place.1 == bucket && pieces.flatten.contains place.2) ∧
        store.deletePieces client bucket pieces scene = (.ok [], after)) ∨
      ∃ fault problem cause, habits.undeleted? bucket = some fault ∧
        objects after.remote = objects scene.remote ∧
        store.deletePieces client bucket pieces scene = (.error (.storage problem cause), after) ∧
        store.Records start.remote bucket fault (.storage problem cause)) := by
  induction pieces generalizing scene with
  | nil => exact (filled rfl).elim
  | cons keys rest ih =>
    rw [deletePieces_cons]
    obtain ⟨between, along, ⟨goes, removed, response, answered, clean⟩ |
      ⟨fault, problem, cause, fails, still, raised, recorded⟩⟩ :=
        askToDelete_steady steady along client bucket keys
    · have collected : (Act.ofExcept (keyErrors response) : Act (Scene σ) _) between =
          (.ok [], between) := congrArg (·, between) clean
      rw [Act.bind_ok answered, Act.bind_ok collected]
      by_cases last : rest = []
      · subst last
        refine ⟨between, along, .inl ⟨goes, ?_, rfl⟩⟩
        rw [removed, List.flatten_cons, List.flatten_nil, List.append_nil]
      · obtain ⟨after, along, ⟨_, removedLater, ran⟩ | ⟨fault, _, _, fails, _⟩⟩ := ih along last
        · refine ⟨after, along, .inl ⟨goes, ?_, (Act.bind_ok ran).trans rfl⟩⟩
          rw [removedLater, removed, Objects.without_without]
          simp only [← Bool.and_or_distrib_left, List.flatten_cons, List.contains_append]
        · cases goes.symm.trans fails
    · exact ⟨between, along, .inr ⟨fault, problem, cause, fails, still, Act.bind_error raised,
        recorded⟩⟩

/-- A delete in a bucket removes its keys, or fails with what goes wrong each time. -/
theorem deleteFrom_steady (along : store.Along habits start scene) (bucket : Text)
    {keys : List Text} (filled : keys ≠ []) : ∃ after, store.Along habits start after ∧
      ((store.fails? habits (start.pools store.pool.name) bucket = none ∧
        objects after.remote = (objects scene.remote).without
          (fun place => place.1 == bucket && keys.contains place.2) ∧
        store.deleteFrom bucket keys scene = (.ok (), after)) ∨
      ∃ fault problem cause,
        store.fails? habits (start.pools store.pool.name) bucket = some fault ∧
        objects after.remote = objects scene.remote ∧
        store.deleteFrom bucket keys scene = (.error (.storage problem cause), after) ∧
        store.Records start.remote bucket fault (.storage problem cause)) := by
  unfold fails? deleteFrom
  obtain ⟨opened, along, same, ⟨had, client, got⟩ | ⟨fault, unhad, raised, judgeable⟩⟩ :=
    clientWith_steady steady along bucket
  · have inPieces : chunksOf batchLimit keys ≠ [] := by
      intro none_left
      have whole := flatten_chunksOf batchLimit keys
      rw [none_left] at whole
      exact filled whole.symm
    rw [Act.bind_ok (store.guarded_ok got), had, Option.none_or]
    obtain ⟨after, along, ⟨goes, removed, ran⟩ |
      ⟨fault, problem, cause, fails, still, ran, recorded⟩⟩ :=
        deletePieces_steady steady along client bucket inPieces
    · rw [flatten_chunksOf, same] at removed
      exact ⟨after, along, .inl ⟨goes, removed, (Act.bind_ok ran).trans rfl⟩⟩
    · exact ⟨after, along, .inr ⟨fault, problem, cause, fails, still.trans same,
        Act.bind_error ran, recorded⟩⟩
  · obtain ⟨problem, cause, journal, recorded, ran⟩ :=
      store.guarded_failureAt bucket raised judgeable
    rw [unhad, Option.some_or]
    exact ⟨_, along.moved along.led journal, .inr ⟨fault, problem, cause, rfl, same,
      Act.bind_error ran, opened.remote, along.led, recorded⟩⟩

/-- The failures of a batch, in the order of its buckets, are those of the buckets in which
something goes wrong; all other groups are removed. -/
theorem deleteGroups_steady (along : store.Along habits start scene)
    {groups : List (Text × List Text)} (filled : ∀ group ∈ groups, group.2 ≠ []) :
    ∃ failures after, store.deleteGroups groups scene = (.ok failures, after) ∧
      store.Along habits start after ∧
      objects after.remote = (objects scene.remote).without (fun place => groups.any fun group =>
        (store.fails? habits (start.pools store.pool.name) group.1).isNone &&
          (place.1 == group.1 && group.2.contains place.2)) ∧
      failures.map (·.1) = (groups.map (·.1)).filter
        (fun bucket => (store.fails? habits (start.pools store.pool.name) bucket).isSome) ∧
      ∀ failure ∈ failures, ∃ fault,
        store.fails? habits (start.pools store.pool.name) failure.1 = some fault ∧
          store.Records start.remote failure.1 fault failure.2 := by
  induction groups generalizing scene with
  | nil => exact ⟨[], scene, rfl, along, rfl, rfl, nofun⟩
  | cons group rest ih =>
    obtain ⟨bucket, keys⟩ := group
    obtain ⟨own, restFilled⟩ := List.forall_mem_cons.mp filled
    obtain ⟨between, along, ⟨goes, removed, ran⟩ |
      ⟨fault, problem, cause, fails, still, ran, recorded⟩⟩ :=
        deleteFrom_steady steady along bucket own
    · obtain ⟨failures, after, later, along, removedLater, buckets, all⟩ := ih along restFilled
      refine ⟨failures, after, (store.deleteGroups_ok ran rest).trans later, along, ?_, ?_, all⟩
      · rw [removedLater, removed, Objects.without_without]
        simp only [List.any_cons, goes, Option.isNone_none, Bool.true_and]
      · rw [buckets, List.map_cons, List.filter_cons_of_neg (by simp [goes])]
    · have told : (store.deleteFrom bucket keys).outcome scene =
          (.ok (.error (.storage problem cause)), between) := by
        rw [Act.outcome_apply, ran]
      have logged := along.moved along.led
        (between.journal ++ [.record (Attempt.failureRecord bucket keys.length problem)])
      obtain ⟨failures, after, later, along, removedLater, buckets, all⟩ := ih logged restFilled
      refine ⟨(bucket, .storage problem cause) :: failures, after, ?_, along, ?_, ?_, ?_⟩
      · rw [deleteGroups_cons, Act.bind_ok told]
        exact (Act.bind_ok rfl).trans ((Act.bind_ok later).trans rfl)
      · rw [removedLater]
        dsimp only
        rw [still]
        simp only [List.any_cons, fails, Option.isNone_some, Bool.false_and, Bool.false_or]
      · rw [List.map_cons, buckets, List.map_cons, List.filter_cons_of_pos (by simp [fails])]
      · exact List.forall_mem_cons.mpr ⟨⟨fault, fails, recorded⟩, all⟩

end Deletes

end BucketStore

end ObjectStorage
