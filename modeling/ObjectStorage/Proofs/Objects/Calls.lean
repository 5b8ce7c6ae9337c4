import ObjectStorage.Proofs.Objects.Service

/-!
# Calls to stores of calm worlds

What a store comes to in a calm world: a read finds the object at its location or fails for good
(`World.read_reaches`), a commit sets the object at its location (`World.commit_reaches`), and
closing the clients does nothing to objects (`World.close_reaches`).
-/

namespace ObjectStorage

open Text

variable {α : Type}

namespace BucketStore

variable (store : BucketStore World) {objects later : Objects} {message : Text}

/-- A guard makes no difference to an act that is answered. -/
theorem guarded_reaches {act : Act (Scene World) α} {answer : α}
    (reaches : act.Reaches objects (.ok answer) later) :
    (store.guarded message act).Reaches objects (.ok answer) later := by
  intro scene shows
  obtain ⟨after, ran, shows⟩ := reaches scene shows
  exact ⟨after, store.guarded_ok ran, shows⟩

/-- A fault that asks for nothing surfaces as one that a retry does not mend. -/
theorem guarded_reaches_calm {act : Act (Scene World) α} {fault : Fault} {code : Text}
    {status : Option Int} (reaches : act.Reaches objects (.error fault) later)
    (foreign : fault.isStorage = false) (recoverable : fault.isInterrupt = false)
    (calm : fault.asksToSlowDown = .ok false) (readCode : fault.reportedCode = .ok code)
    (readStatus : fault.reportedStatus = .ok status) :
    (store.guarded message act).Reaches objects (.error (.storage
      (.nonRetryable (message ++ ": " ++ fault.text) (Verdict.isTransport fault))
      (.fault fault))) later := by
  intro scene shows
  obtain ⟨between, ran, shows⟩ := reaches scene shows
  obtain ⟨problem, cause, after, judged, surfaces, unfolds⟩ :=
    store.guarded_fault message ran (Fault.judgeable_calm recoverable calm readCode readStatus _ _)
  have same : between.remote = after.remote := unfolds.dialogue
  refine ⟨after, ?_, same ▸ shows⟩
  rw [judged]
  cases surfaces with
  | own cause => cases foreign
  | judged foreign given =>
    rcases (Verdict.ofFault_ok given).2 with ⟨asks, _⟩ | ⟨_, problem⟩
    · cases calm.symm.trans asks
    · rw [problem]

/-- A failure of the store surfaces as it is, raised from itself. -/
theorem guarded_reaches_own {act : Act (Scene World) α} {problem : StorageProblem} {cause : Cause}
    (reaches : act.Reaches objects (.error (.storage problem cause)) later) :
    (store.guarded message act).Reaches objects (.error (.storage problem .itself)) later := by
  intro scene shows
  obtain ⟨between, ran, shows⟩ := reaches scene shows
  obtain ⟨problem, cause, after, judged, surfaces, unfolds⟩ :=
    store.guarded_fault message ran (Fault.judgeable_storage ..)
  have same : between.remote = after.remote := unfolds.dialogue
  refine ⟨after, ?_, same ▸ shows⟩
  rw [judged]
  cases surfaces with
  | own cause => rfl
  | judged foreign given => cases foreign

end BucketStore

/-- A request reaches what the service does. -/
theorem Scene.ask_reaches {objects later : Objects} {act : Act World α} {result : Except Fault α}
    (request : Request) (does : ∀ world : World, world.Shows objects →
      ∃ after, act world = (result, after) ∧ after.Shows later) :
    (Scene.ask request act).Reaches objects result later := by
  intro scene shows
  obtain ⟨after, ran, shows⟩ := does scene.remote shows
  refine ⟨{ scene with remote := after, journal := scene.journal ++ [.request request] }, ?_, shows⟩
  rw [Scene.ask_apply, ran]

/-- The options of every bucket can be a key, as texts, flags and open options can. -/
def StoreOptions.Keyable (options : StoreOptions) : Prop :=
  ∀ bucket, (options.effective bucket).toDatum.unkeyable? = none

namespace Objects

/-- The failure to read an object that is not there. -/
def missing (location : Location) : Fault :=
  .storage (.nonRetryable ("Failed to read " ++ location.text ++ ": " ++ World.noSuchKey.text)
    false) (.fault World.noSuchKey)

/-- The object at a location, or the failure to read it. -/
def found (objects : Objects) (location : Location) : Except Fault (List UInt8) :=
  match objects location.place with
  | some bytes => .ok bytes
  | none => .error (missing location)

/-- The object that a datum is the location of. -/
def read (objects : Objects) (source : Datum) : Except Fault (List UInt8) :=
  source.toObjectLocation >>= objects.found

end Objects

/-- The store of a world. -/
def World.store (name : Text) (options : StoreOptions) : BucketStore World :=
  ⟨name, World.remote, options, .options⟩

namespace World

variable {name : Text} {options : StoreOptions} {objects later : Objects}

/-- To close clients changes no object. -/
theorem closeAll_reaches {pool : ClientPool World} (own : pool.remote = World.remote)
    (clients : List Client) : (pool.closeAll clients).Reaches objects (.ok ()) objects := by
  induction clients with
  | nil => exact .pure ()
  | cons client rest ih =>
    have closed : (Scene.ask (.close client.number) (pool.remote.close client)).Reaches objects
        (.ok ()) objects := by
      rw [own]
      exact Scene.ask_reaches _ fun _ shows => closeClient_calm shows
    unfold ClientPool.closeAll
    split
    · exact closed.bind ih
    · exact ih

/-- Closing the clients does nothing to objects. -/
theorem close_reaches {pool : ClientPool World} (own : pool.remote = World.remote) :
    pool.close.Reaches objects (.ok ()) objects := by
  intro scene shows
  have forgotten : ∀ state : PoolState, (Scene.setPool pool.name state).Reaches objects (.ok ())
      objects := fun state _ shows => ⟨_, rfl, shows⟩
  unfold ClientPool.close
  rw [Act.bind_ok (Scene.pool_apply pool.name scene)]
  refine (forgotten _).bind ((closeAll_reaches own _).bind ?_) scene shows
  split
  · exact .note _
  · exact .pure ()

variable (keyable : options.Keyable)
include keyable

/-- The client for a target that names a bucket can be had. -/
theorem clientWith_calm {method : String} {target : Datum} {bucket : Text}
    (named : StoreOptions.bucketOf target = .ok bucket) {scene : Scene World}
    (shows : scene.remote.Shows objects) :
    ∃ client after, (World.store name options).pool.clientWith method target scene =
      (.ok client, after) ∧ after.remote.Shows objects := by
  obtain ⟨result, exchanges, after, ran, obtains, unfolds⟩ :=
    (World.store name options).pool.clientWith_unfolds method target scene
  have identity : options.identityOf target = .ok (options.effective bucket) :=
    StoreOptions.identityOf_of_bucket named
  have dialogue : Dialogue World.remote scene.remote exchanges after.remote := unfolds.dialogue
  obtain ⟨made, built, build, still⟩ := World.build_calm shows
  cases obtains with
  | refused refused => cases identity.symm.trans refused
  | unkeyable other changes =>
    cases identity.symm.trans other
    cases (keyable bucket).symm.trans changes
  | kept _ client =>
    have same : scene.remote = after.remote := dialogue
    exact ⟨client, after, ran, same ▸ shows⟩
  | failed _ =>
    obtain ⟨_, happens, _⟩ := dialogue
    cases happens.symm.trans build
  | missing _ =>
    obtain ⟨_, happens, _⟩ := dialogue
    cases happens.symm.trans build
  | built _ client =>
    obtain ⟨_, happens, same⟩ := dialogue
    cases happens.symm.trans build
    exact ⟨made, after, ran, same ▸ still⟩

/-- What a client can reach is reached when the client is asked for first. -/
theorem withClient_reaches {method : String} {target : Datum} {bucket : Text}
    (named : StoreOptions.bucketOf target = .ok bucket) {next : Client → Act (Scene World) α}
    {result : Except Fault α} (uses : ∀ client, (next client).Reaches objects result later) :
    ((World.store name options).pool.clientWith method target >>= next).Reaches objects result
      later := by
  intro scene shows
  obtain ⟨client, between, had, shows⟩ := clientWith_calm keyable named shows
  obtain ⟨after, ran, shows⟩ := uses client between shows
  exact ⟨after, (Act.bind_ok had).trans ran, shows⟩

/-- A fetch is answered by the object at the place, or fails as there is none. -/
theorem fetch_reaches {location : Location} {bucket : Text}
    (named : location.needAuthority = .ok bucket) :
    ((World.store name options).fetch location).Reaches objects
      (match objects location.place with
        | some bytes => .ok (.body bytes)
        | none => .error noSuchKey) objects := by
  have target : StoreOptions.bucketOf (.location location) = .ok bucket := named
  exact withClient_reaches keyable target fun _ =>
    Scene.ask_reaches _ fun _ shows => getObject_calm shows ..

/-- A read finds the object at its location, or fails for good. -/
theorem read_reaches (source : Datum) :
    ((World.store name options).read source).Reaches objects
      ((objects.read source).map Body.stream) objects := by
  refine .tallied .read ?_
  unfold Objects.read
  cases fit : source.toObjectLocation with
  | error fault => exact (Act.Reaches.ofExcept _).bind_error
  | ok location =>
    refine (Act.Reaches.ofExcept _).bind ?_
    have fetched : ((World.store name options).fetch location).Reaches objects _ objects :=
      fetch_reaches keyable (Datum.toObjectLocation_ok fit).2.2.1
    change Act.Reaches _ objects ((objects.found location).map Body.stream) objects
    unfold Objects.found
    cases stored : objects location.place with
    | some bytes =>
      rw [stored] at fetched
      exact (BucketStore.guarded_reaches _ fetched).bind (.ofExcept _)
    | none =>
      rw [stored] at fetched
      have calm : noSuchKey.asksToSlowDown = .ok false := rfl
      have code : noSuchKey.reportedCode = .ok "NoSuchKey" := rfl
      have status : noSuchKey.reportedStatus = .ok (some 404) := rfl
      exact (BucketStore.guarded_reaches_calm _ fetched rfl rfl calm code status).bind_error

/-- A commit sets the object at its location. -/
theorem commit_reaches {location : Location} {bucket : Text}
    (named : location.needAuthority = .ok bucket) (payload : List UInt8) :
    ((World.store name options).commit location payload).Reaches objects (.ok ())
      (objects.set location.place payload) := by
  have target : StoreOptions.bucketOf (.location location) = .ok bucket := named
  refine .tallied .write (BucketStore.guarded_reaches _ ?_)
  exact withClient_reaches keyable target fun _ =>
    Scene.ask_reaches _ fun _ shows => putObject_calm shows ..

end World

end ObjectStorage
