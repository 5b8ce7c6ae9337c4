import ObjectStorage.BucketStore
import ObjectStorage.Proofs.Pairing.Acts

/-!
# Pairs of stores

Two bucket stores match if the single things that they do pair: getting a client, a request with
one, looking at the circumstances of a failure, and writing a record (`BucketStore.Matches`). Then
their operations pair, and are counted as what pairs (`BucketStore.Matches.toObjectStore_pairs`). A
property of scenes that a store keeps is the case in which a store is matched with itself
(`Act.Pairs.keeps`).
-/

namespace ObjectStorage

open Text

section Keeping

variable {τ α β : Type}

/-- The same state, which has a property. -/
def Holding (holds : τ → Prop) (state other : τ) : Prop :=
  state = other ∧ holds state

/-- An act that pairs with another on the same states keeps their property. -/
theorem Act.Pairs.keeps {holds : τ → Prop} {related : α → β → Prop} {act : Act τ α}
    {other : Act τ β} (pairs : act.Pairs (Holding holds) related other) {state : τ}
    (held : holds state) : holds (act state).2 :=
  (pairs state state ⟨rfl, held⟩).2.2

/-- What keeps a property of states pairs with itself. -/
theorem Act.Pairs.of_keeps {holds : τ → Prop} {act : Act τ α}
    (keeps : ∀ state, holds state → holds (act state).2) :
    act.Pairs (Holding holds) Eq act := by
  rintro state _ ⟨rfl, held⟩
  exact ⟨.refl _, rfl, keeps state held⟩

end Keeping

variable {σ α β : Type} {kept : Scene σ → Scene σ → Prop} {usable : Client → Prop}

/-- The same client or none. A client can be used. -/
def Offered (usable : Client → Prop) (made other : Option Client) : Prop :=
  made = other ∧ ∀ client, made = some client → usable client

/-- Two bucket stores do the same single things: from related scenes they get the same clients, and
with one that can be used they have the same exchanges. -/
structure BucketStore.Matches (kept : Scene σ → Scene σ → Prop) (usable : Client → Prop)
    (store other : BucketStore σ) : Prop where
  client : ∀ target, (store.pool.clientAt target).Pairs kept (Offered usable)
    (other.pool.clientAt target)
  head : ∀ client bucket, usable client →
    (Scene.ask (.headBucket client.number bucket)
      (store.pool.remote.headBucket client bucket)).Pairs kept Eq
    (Scene.ask (.headBucket client.number bucket) (other.pool.remote.headBucket client bucket))
  get : ∀ client bucket key, usable client →
    (Scene.ask (.getObject client.number bucket key)
      (store.pool.remote.getObject client bucket key)).Pairs kept Eq
    (Scene.ask (.getObject client.number bucket key)
      (other.pool.remote.getObject client bucket key))
  put : ∀ client bucket key body, usable client →
    (Scene.ask (.putObject client.number bucket key body)
      (store.pool.remote.putObject client bucket key body)).Pairs kept Eq
    (Scene.ask (.putObject client.number bucket key body)
      (other.pool.remote.putObject client bucket key body))
  delete : ∀ client bucket keys, usable client →
    (Scene.ask (.deleteObjects client.number bucket keys)
      (store.pool.remote.deleteObjects client bucket keys)).Pairs kept Eq
    (Scene.ask (.deleteObjects client.number bucket keys)
      (other.pool.remote.deleteObjects client bucket keys))
  context : ∀ message, (store.context message).Pairs kept Eq (other.context message)
  record : ∀ record, (Scene.note (.record record) : Act (Scene σ) Unit).Pairs kept Eq
    (Scene.note (.record record))

/-- Steps of counters keep a relation of scenes. -/
def CountsPair (kept : Scene σ → Scene σ → Prop) : Prop :=
  ∀ counter, (Scene.note (.count counter) : Act (Scene σ) Unit).Pairs kept Eq
    (Scene.note (.count counter))

/-- Two acts are counted as operations of the same name, and what is counted pairs. -/
def Act.CountedPairs (operation : Operation) (kept : Scene σ → Scene σ → Prop)
    (related : α → β → Prop) (act : Act (Scene σ) α) (other : Act (Scene σ) β) : Prop :=
  ∃ inner otherInner, act = Scene.tallied operation inner ∧
    other = Scene.tallied operation otherInner ∧ inner.Pairs kept related otherInner

/-- An operation is counted alike, for it ends alike. -/
theorem Scene.tallied_pairs (counts : CountsPair kept) (operation : Operation)
    {related : α → β → Prop} {act : Act (Scene σ) α} {other : Act (Scene σ) β}
    (pairs : act.Pairs kept related other) :
    (tallied operation act).Pairs kept related (tallied operation other) := by
  refine pairs.outcome.bind fun result otherResult ends => ?_
  cases ends with
  | ok alike =>
    exact (counts _).bind_same fun _ => (counts _).bind_same fun _ => .ofExcept (.ok alike)
  | error fault =>
    cases fault with
    | storage problem cause =>
      exact (counts _).bind_same fun _ => (counts _).bind_same fun _ => .ofExcept (.error _)
    | _ => exact (counts _).bind_same fun _ => .ofExcept (.error _)

/-- Acts that pair up to the count of the operation pair if counting does. -/
theorem Act.CountedPairs.pairs {operation : Operation} {related : α → β → Prop}
    {act : Act (Scene σ) α} {other : Act (Scene σ) β}
    (counted : act.CountedPairs operation kept related other) (counts : CountsPair kept) :
    act.Pairs kept related other := by
  obtain ⟨inner, otherInner, rfl, rfl, pairs⟩ := counted
  exact Scene.tallied_pairs counts operation pairs

namespace BucketStore.Matches

variable {store other : BucketStore σ} (same : store.Matches kept usable other)
include same

/-- Stores that are the same are given the same client, and one that can be used. -/
theorem clientWith (method : String) (target : Datum) :
    (store.pool.clientWith method target).Pairs kept (fun own client => own = client ∧ usable own)
      (other.pool.clientWith method target) := by
  refine (same.client target).bind fun made otherMade offered => ?_
  obtain ⟨rfl, fit⟩ := offered
  split
  · exact .pure ⟨rfl, fit _ rfl⟩
  · exact .fail _

/-- Stores that are the same judge a fault alike. -/
theorem judge (context : FailureContext) (fault : Fault) :
    (judge context fault : Act (Scene σ) Fault).Pairs kept Eq (ObjectStorage.judge context fault) := by
  unfold ObjectStorage.judge
  split
  · exact .pure rfl
  · refine .bind_same (.ofExcept (.refl _)) fun verdict => ?_
    exact (same.record _).bind_same fun _ => .pure rfl

/-- They fail alike with what they judge a fault to be. -/
theorem failJudged (related : α → β → Prop) (context : FailureContext) (fault : Fault) :
    (failJudged context fault).Pairs kept related (ObjectStorage.failJudged context fault) := by
  refine (same.judge context fault).bind_same fun failure => ?_
  split
  · exact .fail _
  · exact .fail _

/-- A guard around acts that pair leaves them so. -/
theorem guarded (message : Text) {related : α → β → Prop} {act : Act (Scene σ) α}
    {otherAct : Act (Scene σ) β} (pairs : act.Pairs kept related otherAct) :
    (store.guarded message act).Pairs kept related (other.guarded message otherAct) := by
  refine pairs.caught.bind fun result otherResult ends => ?_
  cases ends with
  | ok alike => exact .pure alike
  | error fault =>
    exact (same.context message).bind_same fun context => same.failJudged related context fault

/-- They ask for a bucket alike. -/
theorem headBucket (bucket : Text) : (store.head bucket).Pairs kept Eq (other.head bucket) := by
  refine (same.clientWith _ _).bind ?_
  rintro client _ ⟨rfl, fit⟩
  exact same.head client bucket fit

/-- They ask for an object alike. -/
theorem fetch (location : Location) :
    (store.fetch location).Pairs kept Eq (other.fetch location) := by
  refine (same.clientWith _ _).bind ?_
  rintro client _ ⟨rfl, fit⟩
  exact same.get client _ _ fit

/-- They put an object alike. -/
theorem putObject (location : Location) (payload : List UInt8) :
    (store.put location payload).Pairs kept Eq (other.put location payload) := by
  refine (same.clientWith _ _).bind ?_
  rintro client _ ⟨rfl, fit⟩
  exact same.put client _ _ _ fit

/-- They delete keys of a bucket alike, piece by piece. -/
theorem deletePieces {client : Client} (fit : usable client) (bucket : Text)
    (pieces : List (List Text)) :
    (store.deletePieces client bucket pieces).Pairs kept Eq
      (other.deletePieces client bucket pieces) := by
  induction pieces with
  | nil => exact .pure rfl
  | cons keys rest ih =>
    refine (same.guarded _ (same.delete client bucket keys fit)).bind_same fun response => ?_
    refine .bind_same (.ofExcept (.refl _)) fun errors => ?_
    exact ih.bind_same fun others => .pure rfl

/-- They do so after they have asked for the client of the bucket. -/
theorem deleteFrom (bucket : Text) (keys : List Text) :
    (store.deleteFrom bucket keys).Pairs kept Eq (other.deleteFrom bucket keys) := by
  refine (same.guarded _ (same.clientWith "delete_objects" (.text bucket))).bind ?_
  rintro client _ ⟨rfl, fit⟩
  refine (same.deletePieces fit bucket _).bind_same fun errors => ?_
  split
  · exact .bind_same (.ofExcept (.refl _)) fun fault => .fail fault
  · exact .pure rfl

/-- They delete from one bucket after the other alike. -/
theorem deleteGroups (groups : List (Text × List Text)) :
    (store.deleteGroups groups).Pairs kept Eq (other.deleteGroups groups) := by
  induction groups with
  | nil => exact .pure rfl
  | cons group rest ih =>
    obtain ⟨bucket, keys⟩ := group
    refine (same.deleteFrom bucket keys).outcome.bind fun result otherResult ends => ?_
    obtain rfl := ends.eq
    split
    · exact ih
    · exact (same.record _).bind_same fun _ => ih.bind_same fun others => .pure rfl
    · exact .fail _

/-- Pings pair as far as they are counted alike. -/
theorem ping_counted (source : Datum) :
    (store.ping source).CountedPairs .ping kept Eq (other.ping source) := by
  refine ⟨_, _, rfl, rfl, .bind_same (.ofExcept (.refl _)) fun location => ?_⟩
  refine (same.headBucket location.authority).caught.bind fun result otherResult ends => ?_
  obtain rfl := ends.eq
  split
  · exact .pure rfl
  · exact .fail _

/-- Reads pair as far as they are counted alike. -/
theorem read_counted (source : Datum) :
    (store.read source).CountedPairs .read kept Eq (other.read source) := by
  refine ⟨_, _, rfl, rfl, .bind_same (.ofExcept (.refl _)) fun location => ?_⟩
  exact (same.guarded _ (same.fetch location)).bind_same fun reply => .ofExcept (.refl _)

/-- So do commits. -/
theorem commit_counted (location : Location) (payload : List UInt8) :
    (store.commit location payload).CountedPairs .write kept Eq (other.commit location payload) :=
  ⟨_, _, rfl, rfl, same.guarded _ (same.putObject location payload)⟩

/-- So do deletes. -/
theorem delete_counted (locations : Datum) :
    (store.delete locations).CountedPairs .delete kept Eq (other.delete locations) := by
  refine ⟨_, _, rfl, rfl, .bind_same (.ofExcept (.refl _)) fun items => ?_⟩
  refine .bind_same (.ofExcept (.refl _)) fun parsed => ?_
  refine (same.deleteGroups _).bind_same fun failures => ?_
  split
  · exact .fail _
  · exact .pure rfl

/-- The operations of stores that match are pairs. -/
theorem toObjectStore_pairs (counts : CountsPair kept) :
    store.toObjectStore.Pairs kept other.toObjectStore where
  ping source := (same.ping_counted source).pairs counts
  read source := (same.read_counted source).pairs counts
  openSink _ := .bind_same (.ofExcept (.refl _)) fun location =>
    .pure ⟨rfl, fun payload => (same.commit_counted location payload).pairs counts⟩
  delete locations := (same.delete_counted locations).pairs counts

end BucketStore.Matches

end ObjectStorage
