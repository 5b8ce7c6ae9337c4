import ObjectStorage.Proofs.Secrecy.Disguise
import ObjectStorage.Proofs.Pairing.Stores

/-!
# Stores that do not see a disguise

Scenes are related if all is the same in them but that options are in disguise. If the service makes
clients without regard to a disguise, the operations of a pool on such scenes pair with those of the
pool in disguise, and so do those of the bucket stores in front of them
(`BucketStore.toObjectStore_pairs`): the same answers, faults, records and counters.
-/

namespace ObjectStorage

open Text Time

variable {σ α β : Type} {disguise : Disguise}

/-- The same request, but that the options handed to the maker of clients are in disguise. -/
inductive Request.InDisguise (disguise : Disguise) : Request → Request → Prop
  | create {own other : ClientOptions} (disguised : own.InDisguise disguise other) :
    InDisguise disguise (.create own) (.create other)
  | connect {own other : ClientOptions} (disguised : own.InDisguise disguise other) :
    InDisguise disguise (.connect (.ofOptions own)) (.connect (.ofOptions other))
  | stays (request : Request) : InDisguise disguise request request

/-- The same event, but that a request may be in disguise. -/
inductive Event.InDisguise (disguise : Disguise) : Event → Event → Prop
  | request {own other : Request} (disguised : own.InDisguise disguise other) :
    InDisguise disguise (.request own) (.request other)
  | stays (event : Event) : InDisguise disguise event event

/-- Nothing differs between two scenes but that options are in disguise. -/
structure Scene.InDisguise (disguise : Disguise) (own other : Scene σ) : Prop where
  remote : own.remote = other.remote
  pools : ∀ name, (own.pools name).InDisguise disguise (other.pools name)
  journal : List.Forall₂ (Event.InDisguise disguise) own.journal other.journal

/-- The maker of clients takes no notice of a disguise. -/
def Remote.Blind (remote : Remote σ) (disguise : Disguise) : Prop :=
  ∀ own other : ClientOptions, own.InDisguise disguise other →
    remote.build own = remote.build other

/-- The same pool, its options in disguise. -/
structure ClientPool.InDisguise (disguise : Disguise) (own other : ClientPool σ) : Prop where
  name : own.name = other.name
  remote : own.remote = other.remote
  options : own.options.InDisguise disguise other.options
  handover : own.handover = other.handover

namespace Scene

/-- To note an event pairs with noting it in disguise. -/
theorem note_pairs {own other : Event} (events : own.InDisguise disguise other) :
    (note own : Act (Scene σ) Unit).Pairs (InDisguise disguise) Eq (note other) :=
  .modify fun _ _ scenes =>
    ⟨scenes.remote, scenes.pools, List.rel_append scenes.journal (.cons events .nil)⟩

/-- A record that tells of no identity is the same in disguise. -/
theorem log_pairs (severity : Severity) (message : Text) (details : Datum) :
    (log severity message details : Act (Scene σ) Unit).Pairs (InDisguise disguise) Eq
      (log severity message details) :=
  note_pairs (.stays _)

/-- A request in disguise is answered as the request is. -/
theorem ask_pairs {own other : Request} (requests : own.InDisguise disguise other)
    (act : Act σ α) : (ask own act).Pairs (InDisguise disguise) Eq (ask other act) := by
  refine (note_pairs (.request requests)).bind_same fun _ => ?_
  exact .onPart_same act (fun _ _ scenes => scenes.remote) fun _ _ scenes _ =>
    ⟨rfl, scenes.pools, scenes.journal⟩

/-- To look at a pool shows it in disguise. -/
theorem pool_pairs (name : Text) : (pool name : Act (Scene σ) PoolState).Pairs
    (InDisguise disguise) (PoolState.InDisguise disguise) (pool name) :=
  fun _ _ scenes => ⟨.ok (scenes.pools name), scenes⟩

/-- To set a pool keeps the disguise. -/
theorem setPool_pairs (name : Text) {own other : PoolState}
    (states : own.InDisguise disguise other) :
    (setPool name own : Act (Scene σ) Unit).Pairs (InDisguise disguise) Eq
      (setPool name other) := by
  refine .modify fun _ _ scenes => ⟨scenes.remote, fun named => ?_, scenes.journal⟩
  dsimp only
  split
  · exact states
  · exact scenes.pools named

end Scene

/-- Targets have identities in disguise, or none for the same reason. -/
theorem StoreOptions.InDisguise.identityOf {own other : StoreOptions}
    (same : own.InDisguise disguise other) (target : Datum) :
    EndsAlike (ClientOptions.InDisguise disguise) (own.identityOf target)
      (other.identityOf target) := by
  unfold StoreOptions.identityOf
  cases bucketOf target with
  | error fault => exact .error fault
  | ok bucket => exact .ok (same.effective bucket)

namespace ClientPool

variable {pool other : ClientPool σ}

/-- New clients are made alike. Their records tell of options that no disguise touches, and of how
many clients there are. -/
theorem create_pairs (same : pool.InDisguise disguise other) (blind : pool.remote.Blind disguise)
    {options changed : ClientOptions} (disguised : options.InDisguise disguise changed) :
    (pool.create options).Pairs (Scene.InDisguise disguise) Eq (other.create changed) := by
  have requests :
      (pool.handover.request options).InDisguise disguise (other.handover.request changed) := by
    rw [← same.handover]
    cases pool.handover with
    | options => exact .create disguised
    | parameters => exact .connect disguised
  have text : createdText options = createdText changed := by
    unfold createdText
    rw [disguised.endpointUrl, disguised.region, disguised.pathStyle]
  have details (kept : Nat) : createdDetails options kept = createdDetails changed kept := by
    unfold createdDetails
    rw [disguised.endpointUrl, disguised.region]
  unfold create
  rw [← same.name, ← same.remote, ← blind options changed disguised, text]
  refine (Scene.pool_pairs pool.name).bind fun state otherState states => ?_
  refine (Scene.setPool_pairs _ (states.enter disguised)).bind_same fun _ => ?_
  refine (Scene.ask_pairs requests _).bind_same fun made => ?_
  refine (Scene.pool_pairs pool.name).bind fun state otherState states => ?_
  have kept := states.keep disguised made
  refine (Scene.setPool_pairs _ kept).bind_same fun _ => ?_
  refine (Scene.note_pairs (.stays _)).bind_same fun _ => ?_
  rw [details, kept.clients.length_eq]
  exact (Scene.log_pairs _ _ _).bind_same fun _ => .pure rfl

/-- A service that is blind makes the same clients for options in disguise. -/
theorem clientAt_pairs (same : pool.InDisguise disguise other)
    (blind : pool.remote.Blind disguise) (target : Datum) :
    (pool.clientAt target).Pairs (Scene.InDisguise disguise) Eq (other.clientAt target) := by
  refine Act.Pairs.bind (.ofExcept (same.options.identityOf target)) ?_
  intro options changed disguised
  unfold clientOf
  rw [disguised.unkeyable?_eq]
  split
  · exact .fail _
  · rw [← same.name]
    refine (Scene.pool_pairs pool.name).bind fun state otherState states => ?_
    rw [states.client?_eq disguised]
    split
    · exact .pure rfl
    · exact create_pairs same blind disguised

/-- The same clients are closed in disguise. -/
theorem closeAll_pairs (same : pool.InDisguise disguise other) (clients : List Client) :
    (pool.closeAll clients).Pairs (Scene.InDisguise disguise) Eq (other.closeAll clients) := by
  induction clients with
  | nil => exact .pure rfl
  | cons client rest ih =>
    rw [closeAll, closeAll, ← same.remote]
    split
    · exact (Scene.ask_pairs (.stays _) _).bind_same fun _ => ih
    · exact ih

/-- A pool in disguise closes its clients in the same order. -/
theorem close_pairs (same : pool.InDisguise disguise other) :
    pool.close.Pairs (Scene.InDisguise disguise) Eq other.close := by
  unfold close
  rw [← same.name]
  refine (Scene.pool_pairs pool.name).bind fun state otherState states => ?_
  rw [states.inOrder_eq]
  refine (Scene.setPool_pairs _ states.forget).bind_same fun _ => ?_
  refine (closeAll_pairs same _).bind_same fun _ => ?_
  split
  · exact Scene.log_pairs _ _ _
  · exact .pure rfl

end ClientPool

namespace BucketStore

variable {store other : BucketStore σ}

/-- What a failure is judged by does not depend on the disguise. -/
theorem context_pairs (same : store.pool.InDisguise disguise other.pool) (message : Text) :
    (store.context message).Pairs (Scene.InDisguise disguise) Eq (other.context message) := by
  refine Act.Pairs.get.bind fun scene otherScene scenes => .pure ?_
  rw [same.remote, scenes.remote, same.options.retryAfter]

/-- A store is matched by one whose options are in disguise. -/
theorem matches_inDisguise (same : store.pool.InDisguise disguise other.pool)
    (blind : store.pool.remote.Blind disguise) :
    store.Matches (Scene.InDisguise disguise) (fun _ => True) other where
  client target := (ClientPool.clientAt_pairs same blind target).mono
    fun _ _ equal => ⟨equal, fun _ _ => trivial⟩
  head _ _ _ := same.remote ▸ Scene.ask_pairs (.stays _) _
  get _ _ _ _ := same.remote ▸ Scene.ask_pairs (.stays _) _
  put _ _ _ _ _ := same.remote ▸ Scene.ask_pairs (.stays _) _
  delete _ _ _ _ := same.remote ▸ Scene.ask_pairs (.stays _) _
  context := context_pairs same
  record _ := Scene.note_pairs (.stays _)

/-- Stores do not see whether the options of their pools are in disguise. -/
theorem toObjectStore_pairs (same : store.pool.InDisguise disguise other.pool)
    (blind : store.pool.remote.Blind disguise) :
    store.toObjectStore.Pairs (Scene.InDisguise disguise) other.toObjectStore :=
  (matches_inDisguise same blind).toObjectStore_pairs fun _ => Scene.note_pairs (.stays _)

end BucketStore

end ObjectStorage
