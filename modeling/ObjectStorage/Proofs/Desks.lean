import ObjectStorage.Proofs.Entries
import ObjectStorage.Proofs.Pairing.Stores

/-!
# Desks

A session is a row of calls to a store, to the sinks that it opened, and to its pool of clients. It
works at a desk: a scene, and the sinks in use (`BucketStore.session`). Calls at two desks that are
alike are answered alike, if what they do to the scenes pairs (`BucketStore.answer_pairs`).
-/

namespace ObjectStorage

open Text

variable {σ α β : Type}

/-- The way to a store: straight, or by a router that hands everything to it. -/
inductive Front
  | straight
  | routed (routes : Routes)

def Front.toObjectStore (front : Front) (store : BucketStore σ) : ObjectStore (Scene σ) :=
  match front with
  | .straight => store.toObjectStore
  | .routed routes => Router.toObjectStore ⟨routes, fun _ => store.toObjectStore⟩

/-- A call to a store, to a sink that goes by a name, or to the pool of clients. -/
inductive ClientCall
  | ping (front : Front) (location : Datum)
  | read (front : Front) (location : Datum)
  | readWhole (front : Front) (location : Datum)
  | openSink (front : Front) (id : Text) (location : Datum)
  | useSink (id : Text) (operation : SinkOp)
  | writeWhole (front : Front) (location : Datum) (data : Option (List UInt8))
  | delete (front : Front) (locations : Datum)
  | clientAt (target : Datum)
  | identityOf (target : Datum)
  | closeClients

/-- What a call answers. -/
inductive ClientAnswer
  | nothing
  | body (body : Body)
  | bytes (value : List UInt8)
  | text (value : Text)
  | sink (answer : SinkAnswer) (phase : String)
  | client (client : Option Client)
  | identity (options : ClientOptions)

/-- A sink in use and where it commits to. -/
structure HeldSink (σ : Type) where
  sink : Sink
  commit : List UInt8 → Act (Scene σ) Unit

/-- The commit of a sink in use, as an act beside the sink. -/
def HeldSink.commitBeside (held : HeldSink σ) (payload : List UInt8) :
    Act (Sink × Scene σ) Unit :=
  (held.commit payload).onPart Prod.snd fun state scene => (state.1, scene)

/-- Where a session works: the scene, and the sinks in use. -/
structure Desk (σ : Type) where
  scene : Scene σ
  sinks : List (Text × HeldSink σ)

namespace Desk

/-- A desk at which nothing has happened. -/
def start (remote : σ) : Desk σ :=
  ⟨.start remote, []⟩

/-- A desk as a call finds it when what happens in it is to be reported. -/
def cleared (desk : Desk σ) : Desk σ :=
  { desk with scene := { desk.scene with journal := [] } }

def onScene (act : Act (Scene σ) α) : Act (Desk σ) α :=
  act.onPart Desk.scene fun desk scene => { desk with scene }

/-- Takes a sink into use under a name. -/
def hold (id : Text) (target : SinkTarget (Scene σ)) : Act (Desk σ) Unit :=
  Act.modify fun desk =>
    { desk with sinks := putEntry desk.sinks id ⟨.fresh target.name, target.commit⟩ }

/-- Runs an operation on a sink in use, which commits to the scene. -/
def useSink (id : Text) (operation : SinkOp) : Act (Desk σ) ClientAnswer :=
  fun desk =>
    match desk.sinks.lookup id with
    | none => (.error (.mishap (.noEntry id)), desk)
    | some held =>
      match operation.run held.commitBeside (held.sink, desk.scene) with
      | (result, (sink, scene)) =>
        (result.map fun answer => .sink answer sink.phase.name,
          ⟨scene, putEntry desk.sinks id { held with sink }⟩)

end Desk

/-- What is seen of a call, and the options that it lets out. -/
structure CallReport where
  result : Except Fault ClientAnswer
  journal : Journal

namespace BucketStore

/-- Answers a call. -/
def answer (store : BucketStore σ) : ClientCall → Act (Desk σ) ClientAnswer
  | .ping front location => do
    Desk.onScene ((front.toObjectStore store).ping location)
    return .nothing
  | .read front location =>
    .body <$> Desk.onScene ((front.toObjectStore store).read location)
  | .readWhole front location =>
    .bytes <$> Desk.onScene ((front.toObjectStore store).readWhole location)
  | .openSink front id location => do
    let target ← Desk.onScene ((front.toObjectStore store).openSink location)
    Desk.hold id target
    return .text target.name
  | .useSink id operation => Desk.useSink id operation
  | .writeWhole front location data => do
    Desk.onScene ((front.toObjectStore store).writeWhole location data)
    return .nothing
  | .delete front locations => do
    Desk.onScene ((front.toObjectStore store).delete locations)
    return .nothing
  | .clientAt target => .client <$> Desk.onScene (store.pool.clientAt target)
  | .identityOf target => .identity <$> Act.ofExcept (store.pool.options.identityOf target)
  | .closeClients => do
    Desk.onScene store.pool.close
    return .nothing

/-- Answers a call and reports what happened in it. -/
def report (store : BucketStore σ) (call : ClientCall) (desk : Desk σ) : CallReport × Desk σ :=
  let ran := store.answer call desk.cleared
  (⟨ran.1, ran.2.scene.journal⟩, ran.2)

/-- The reports of calls, made one after the other, and the desk that they leave. -/
def session (store : BucketStore σ) : List ClientCall → Desk σ → List CallReport × Desk σ
  | [], desk => ([], desk)
  | call :: rest, desk =>
    let first := store.report call desk
    let others := store.session rest first.2
    (first.1 :: others.1, others.2)

end BucketStore

variable {kept : Scene σ → Scene σ → Prop}

/-- The same sink, whose commits pair. -/
structure HeldSink.Pairs (kept : Scene σ → Scene σ → Prop) (own other : HeldSink σ) : Prop where
  sink : own.sink = other.sink
  commit : ∀ payload, (own.commit payload).Pairs kept Eq (other.commit payload)

/-- Held sinks that pair commit alike, with the sinks beside the scenes kept as they are. -/
theorem HeldSink.Pairs.beside {own other : HeldSink σ} (pairs : own.Pairs kept other)
    (payload : List UInt8) :
    (own.commitBeside payload).Pairs (Beside kept) Eq (other.commitBeside payload) :=
  (pairs.commit payload).onPart (fun _ _ states => states.2)
    fun _ _ states _ _ scenes => ⟨states.1, scenes⟩

/-- Two desks with related scenes and the same sinks, whose commits pair. -/
structure Desk.Alike (kept : Scene σ → Scene σ → Prop) (own other : Desk σ) : Prop where
  scene : kept own.scene other.scene
  sinks : EntriesPair (HeldSink.Pairs kept) own.sinks other.sinks

namespace Desk

/-- Acts that pair on the scene pair on the desk. -/
theorem onScene_pairs {related : α → β → Prop} {act : Act (Scene σ) α} {other : Act (Scene σ) β}
    (pairs : act.Pairs kept related other) :
    (onScene act).Pairs (Alike kept) related (onScene other) :=
  pairs.onPart (fun _ _ desks => desks.scene) fun _ _ desks _ _ scenes => ⟨scenes, desks.sinks⟩

/-- To hold targets that pair keeps the desks alike. -/
theorem hold_pairs (id : Text) {target other : SinkTarget (Scene σ)}
    (targets : target.Pairs kept other) :
    (hold id target).Pairs (Alike kept) Eq (hold id other) := by
  refine .modify fun _ _ desks => ⟨desks.scene, desks.sinks.put id ⟨?_, targets.commit⟩⟩
  rw [targets.name]

/-- To use the sink of the same name on desks that are alike comes to the same answer. -/
theorem useSink_pairs (id : Text) (operation : SinkOp) :
    (useSink id operation : Act (Desk σ) ClientAnswer).Pairs (Alike kept) Eq
      (useSink id operation) := by
  intro desk other desks
  have found := desks.sinks.lookup id
  unfold useSink
  generalize desk.sinks.lookup id = given at found ⊢
  generalize other.sinks.lookup id = otherGiven at found ⊢
  cases found with
  | none => exact ⟨.error _, desks⟩
  | @some held otherHeld pairs =>
    obtain ⟨ends, sinks, scenes⟩ := SinkOp.run_pairs pairs.beside operation
      (held.sink, desk.scene) (otherHeld.sink, other.scene) ⟨pairs.sink, desks.scene⟩
    refine ⟨?_, scenes, desks.sinks.put id ⟨sinks, pairs.commit⟩⟩
    dsimp only
    rw [ends.eq, sinks]
    exact .refl _

end Desk

/-- What leads to stores that pair is a pair of stores. -/
theorem Front.pairs {store other : BucketStore σ}
    (stores : store.toObjectStore.Pairs kept other.toObjectStore) (front : Front) :
    (front.toObjectStore store).Pairs kept (front.toObjectStore other) := by
  cases front with
  | straight => exact stores
  | routed routes => exact Router.pairs rfl fun _ => stores

/-- A call is answered alike, if the operations of the stores and of their pools pair. Answers that
are equal are alike, and so must be the identities of targets. -/
theorem BucketStore.answer_pairs {related : ClientAnswer → ClientAnswer → Prop}
    {store other : BucketStore σ} (equal : ∀ answer, related answer answer)
    (stores : store.toObjectStore.Pairs kept other.toObjectStore)
    (clients : ∀ target, (store.pool.clientAt target).Pairs kept Eq (other.pool.clientAt target))
    (identities : ∀ target, EndsAlike (fun own other => related (.identity own) (.identity other))
      (store.pool.options.identityOf target) (other.pool.options.identityOf target))
    (closes : store.pool.close.Pairs kept Eq other.pool.close) (call : ClientCall) :
    (store.answer call).Pairs (Desk.Alike kept) related (other.answer call) := by
  have fronts := Front.pairs stores
  have made {α : Type} {make : α → ClientAnswer} (value other : α) (same : value = other) :
      related (make value) (make other) := same ▸ equal _
  cases call with
  | ping front location =>
    exact (Desk.onScene_pairs ((fronts front).ping location)).bind_same fun _ => .pure (equal _)
  | read front location => exact (Desk.onScene_pairs ((fronts front).read location)).map made
  | readWhole front location =>
    exact (Desk.onScene_pairs ((fronts front).readWhole location)).map made
  | openSink front id location =>
    refine (Desk.onScene_pairs ((fronts front).openSink location)).bind fun target other pairs => ?_
    refine (Desk.hold_pairs id pairs).bind_same fun _ => .pure ?_
    rw [pairs.name]
    exact equal _
  | useSink id operation =>
    exact (Desk.useSink_pairs id operation).mono fun answer _ same => same ▸ equal answer
  | writeWhole front location data =>
    exact (Desk.onScene_pairs ((fronts front).writeWhole location data)).bind_same
      fun _ => .pure (equal _)
  | delete front locations =>
    exact (Desk.onScene_pairs ((fronts front).delete locations)).bind_same
      fun _ => .pure (equal _)
  | clientAt target => exact (Desk.onScene_pairs (clients target)).map made
  | identityOf target => exact Act.Pairs.map (.ofExcept (identities target)) fun _ _ same => same
  | closeClients => exact (Desk.onScene_pairs closes).bind_same fun _ => .pure (equal _)

end ObjectStorage
