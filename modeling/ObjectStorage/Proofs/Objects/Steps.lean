import ObjectStorage.Proofs.Objects.Shelf

/-!
# Calls as steps of sessions

A session stands for a shelf when its sinks are the drafts and its world shows the objects
(`Session.StandsFor`). Every call to the store has the result that it has on the shelf and leaves
the session standing for the shelf that is left (`Session.step_stands`), and so does a row of calls
(`Session.run_stands`).
-/

namespace ObjectStorage

open Text

variable {name : Text} {options : StoreOptions}
  (keyable : options.Keyable)

/-- A commit as an act on the scene beside a sink. -/
def commitBeside (commit : List UInt8 → Act (Scene World) Unit) (payload : List UInt8) :
    Act (Sink × Scene World) Unit :=
  (commit payload).onPart Prod.snd fun state scene => (state.1, scene)

/-- The sink in use that a draft stands for. -/
def Draft.openSink (name : Text) (options : StoreOptions) (draft : Draft) : OpenSink :=
  ⟨draft.sink, (World.store name options).commit draft.location⟩

/-- A sink and a scene stand for a draft of a location and objects. -/
structure Draft.Stands (location : Location) (state : Sink × Scene World)
    (other : Draft × Objects) : Prop where
  located : other.1.location = location
  sink : state.1 = other.1.sink
  shows : state.2.remote.Shows other.2

include keyable in
/-- A use of the sink does to the scene what it does to the draft and the objects. -/
theorem SinkUse.run_follows (name : Text) {location : Location} {bucket : Text}
    (named : location.needAuthority = .ok bucket) (deed : SinkUse) :
    Act.Follows (Draft.Stands location)
      (deed.run (commitBeside ((World.store name options).commit location))) (Draft.use deed) := by
  rintro ⟨sink, scene⟩ ⟨⟨own, stage⟩, objects⟩ ⟨located, rfl, shows⟩
  obtain rfl : location = own := located.symm
  cases stage with
  | taking written =>
    have collects : (Draft.sink ⟨location, .taking written⟩).Collects written.flatten := ⟨rfl, rfl⟩
    cases terminal : deed.isTerminal with
    | false =>
      obtain ⟨more, same, used⟩ := Draft.use_open terminal
      rw [SinkUse.run_open collects terminal, used, ← same, ← List.flatten_append]
      exact ⟨rfl, rfl, rfl, shows⟩
    | true =>
      cases committing : deed.isCommitting with
      | false =>
        rw [SinkUse.run_abort collects terminal committing, Draft.use_abort terminal committing]
        exact ⟨rfl, rfl, rfl, shows⟩
      | true =>
        have reached : ((World.store name options).commit location written.flatten).Reaches objects
            (.ok ()) (objects.set location.place written.flatten) :=
          World.commit_reaches keyable named written.flatten
        obtain ⟨after, ran, still⟩ := reached scene shows
        have committed : ∀ sink : Sink, commitBeside ((World.store name options).commit location)
            written.flatten (sink, scene) = (.ok (), (sink, after)) := by
          intro sink
          unfold commitBeside Act.onPart
          rw [ran]
        rw [SinkUse.run_commit collects committing (committed _), Draft.use_commit committing]
        exact ⟨rfl, rfl, rfl, still⟩
  | closed | aborted =>
    rw [deed.run_late _ ⟨rfl, rfl⟩, Draft.use_late rfl]
    exact ⟨rfl, rfl, rfl, shows⟩

include keyable in
/-- So does an operation, whose outcome is that of its plan on the draft. -/
theorem SinkOp.outcome_follows (name : Text) {location : Location} {bucket : Text}
    (named : location.needAuthority = .ok bucket) (operation : SinkOp) :
    Act.Follows (Draft.Stands location)
      (operation.run (commitBeside ((World.store name options).commit location))).outcome
      (operation.plan.run Draft.use) := by
  rw [SinkOp.outcome_run]
  exact SinkPlan.run_follows (SinkUse.run_follows keyable name named) operation.plan

/-- A session stands for a shelf: a store has a name in it, its world shows the objects, and its
sinks are the drafts, each of an object in a bucket. -/
structure Session.StandsFor (name : Text) (options : StoreOptions) (session : Session)
    (shelf : Shelf) : Prop where
  store : session.backends.lookup name = some (.ofOptions name options)
  shows : session.scene.remote.Shows shelf.objects
  sinks : session.sinks =
    shelf.drafts.map fun entry => (entry.1, entry.2.openSink name options)
  named : ∀ id draft, shelf.drafts.lookup id = some draft →
    ∃ bucket, draft.location.needAuthority = .ok bucket

namespace Session

variable {session : Session} {shelf : Shelf}

theorem onScene_apply {α : Type} (act : Act (Scene World) α) (session : Session) :
    onScene act session =
      ((act session.scene).1, { session with scene := (act session.scene).2 }) :=
  rfl

/-- What a call to the store does to the scene, it does to the session. -/
theorem withStore_reaches {α : Type} (unrouted : name ≠ routerName)
    (stands : session.StandsFor name options shelf)
    (act : ObjectStore (Scene World) → Act (Scene World) α) {result : Except Fault α}
    {later : Objects}
    (reaches : (act (World.store name options).toObjectStore).Reaches shelf.objects result later) :
    ∃ after, withStore name act session = (result, after) ∧
      after.StandsFor name options { shelf with objects := later } := by
  obtain ⟨scene, ran, shows⟩ := reaches session.scene stands.shows
  have found : session.storeNamed name = .ok (World.store name options).toObjectStore := by
    unfold storeNamed backendNamed
    rw [if_neg unrouted, stands.store]
    rfl
  refine ⟨{ session with scene }, ?_, stands.store, shows, stands.sinks, stands.named⟩
  have had : (Act.get : Act Session Session) session = (.ok session, session) := rfl
  have given : (Act.ofExcept (session.storeNamed name)) session =
      (.ok (World.store name options).toObjectStore, session) := congrArg (·, session) found
  unfold withStore
  rw [Act.bind_ok had, Act.bind_ok given, onScene_apply, ran]

/-- Opening a sink opens a draft. -/
theorem openSink_stands (unrouted : name ≠ routerName)
    (stands : session.StandsFor name options shelf) (id : Text) (source : Datum) :
    ∃ after, perform ((StoreCall.openSink id source).step name) session =
        ((shelf.perform (.openSink id source)).1, after) ∧
      after.StandsFor name options (shelf.perform (.openSink id source)).2 := by
  have opens : perform ((StoreCall.openSink id source).step name) =
      Answer.text <$> openSink id name source := rfl
  rw [opens, map_eq_pure_bind, Shelf.perform]
  cases fit : source.toObjectLocation with
  | error fault =>
    have refused : ((World.store name options).openSink source).Reaches shelf.objects
        (.error fault) shelf.objects := by
      unfold BucketStore.openSink
      rw [fit]
      exact (Act.Reaches.ofExcept _).bind_error
    obtain ⟨after, ran, still⟩ := withStore_reaches unrouted stands
      (fun store => store.openSink source) refused
    exact ⟨after, Act.bind_error (Act.bind_error ran), still⟩
  | ok location =>
    have opened : ((World.store name options).openSink source).Reaches shelf.objects
        (.ok ⟨location.text, (World.store name options).commit location⟩) shelf.objects := by
      unfold BucketStore.openSink
      rw [fit]
      exact (Act.Reaches.ofExcept _).bind (.pure _)
    obtain ⟨after, ran, still⟩ := withStore_reaches unrouted stands
      (fun store => store.openSink source) opened
    have ranAll : openSink id name source session = (.ok location.text, { after with
        sinks := putEntry after.sinks id (Draft.openSink name options ⟨location, .taking []⟩) }) :=
      Act.bind_ok ran
    refine ⟨_, Act.bind_ok ranAll, ?_⟩
    have bucketed : ∃ bucket, location.needAuthority = .ok bucket :=
      ⟨_, (Datum.toObjectLocation_ok fit).2.2.1⟩
    refine ⟨still.store, still.shows, ?_, forall_lookup_putEntry stands.named bucketed⟩
    rw [still.sinks]
    exact putEntry_map_values ..

/-- A sink that is there is used and put back. -/
theorem withSink_present {α : Type} {id : Text} {used : OpenSink}
    {use : (List UInt8 → Act (Sink × Scene World) Unit) → Act (Sink × Scene World) α}
    {result : Except Fault α} {sink : Sink} {scene : Scene World}
    (present : session.sinks.lookup id = some used)
    (ran : use (commitBeside used.commit) (used.sink, session.scene) = (result, (sink, scene))) :
    withSink id use session = (result.map fun answer => (answer, sink),
      { session with scene, sinks := putEntry session.sinks id { used with sink } }) := by
  unfold commitBeside at ran
  unfold withSink
  rw [present]
  dsimp only
  rw [ran]

/-- A sink that was never opened cannot be used. -/
theorem withSink_absent {α : Type} {id : Text}
    {use : (List UInt8 → Act (Sink × Scene World) Unit) → Act (Sink × Scene World) α}
    (absent : session.sinks.lookup id = none) :
    withSink id use session = (.error (.mishap (.noEntry id)), session) := by
  unfold withSink
  rw [absent]

/-- The sinks of a session are the drafts of the shelf. -/
theorem sinks_lookup (stands : session.StandsFor name options shelf) (id : Text) :
    session.sinks.lookup id = (shelf.drafts.lookup id).map (Draft.openSink name options) := by
  rw [stands.sinks]
  exact lookup_map_values ..

include keyable in
/-- Using a sink is using its draft. -/
theorem useSink_stands (stands : session.StandsFor name options shelf) (id : Text)
    (operation : SinkOp) :
    ∃ after, perform ((StoreCall.useSink id operation).step name) session =
        ((shelf.perform (.useSink id operation)).1, after) ∧
      after.StandsFor name options (shelf.perform (.useSink id operation)).2 := by
  have found := sinks_lookup stands id
  have uses : perform ((StoreCall.useSink id operation).step name) =
      (withSink id fun commit => operation.run commit) >>= fun answered =>
        return Answer.sink answered.1 answered.2.phase.name := rfl
  rw [uses, Shelf.perform]
  cases present : shelf.drafts.lookup id with
  | none =>
    rw [present] at found
    exact ⟨session, Act.bind_error (withSink_absent found), stands⟩
  | some draft =>
    rw [present] at found
    obtain ⟨bucket, named⟩ := stands.named id draft present
    have follows :=
      SinkOp.outcome_follows keyable name named operation (draft.sink, session.scene)
        (draft, shelf.objects) ⟨rfl, rfl, stands.shows⟩
    rcases ran : operation.run (commitBeside ((World.store name options).commit draft.location))
      (draft.sink, session.scene) with ⟨result, sink, scene⟩
    rcases used : operation.plan.run Draft.use (draft, shelf.objects) with ⟨outcome, next, objects⟩
    rw [Act.outcome_apply, ran, used] at follows
    obtain ⟨same, located, own, shows⟩ := follows
    obtain rfl : Except.ok result = outcome := same
    obtain rfl : sink = next.sink := own
    have kept : { draft.openSink name options with sink := next.sink } =
        next.openSink name options := by
      have still : next.location = draft.location := located
      rw [Draft.openSink, Draft.openSink, still]
    dsimp only
    rw [used]
    have bucketed : ∃ bucket, next.location.needAuthority = .ok bucket :=
      ⟨bucket, located ▸ named⟩
    refine ⟨{ session with
      scene, sinks := putEntry session.sinks id (next.openSink name options) }, ?_,
      stands.store, shows, ?_, forall_lookup_putEntry stands.named bucketed⟩
    · rw [Act.bind_apply, withSink_present found ran, kept]
      cases result <;> rfl
    · rw [stands.sinks]
      exact putEntry_map_values ..

include keyable in
/-- Reading an object is looking it up. -/
theorem read_stands (unrouted : name ≠ routerName)
    (stands : session.StandsFor name options shelf) (source : Datum) :
    ∃ after, perform ((StoreCall.read source).step name) session =
        ((shelf.perform (.read source)).1, after) ∧
      after.StandsFor name options (shelf.perform (.read source)).2 := by
  have reads : perform ((StoreCall.read source).step name) =
      Answer.bytes <$> withStore name fun store => store.readWhole source := rfl
  have opened : ((World.store name options).read source).Reaches shelf.objects
      ((shelf.objects.read source).map Body.stream) shelf.objects :=
    World.read_reaches keyable source
  have whole : ((World.store name options).toObjectStore.readWhole source).Reaches shelf.objects
      (shelf.objects.read source) shelf.objects := by
    unfold ObjectStore.readWhole
    cases found : shelf.objects.read source with
    | ok bytes =>
      rw [found] at opened
      exact opened.bind (.pure bytes)
    | error fault =>
      rw [found] at opened
      exact opened.bind_error
  obtain ⟨after, ran, still⟩ := withStore_reaches unrouted stands
    (fun store => store.readWhole source) whole
  refine ⟨after, ?_, still⟩
  rw [reads, map_eq_pure_bind, Act.bind_apply, ran, Shelf.perform]
  cases shelf.objects.read source <;> rfl

include keyable in
/-- A delete comes to what it comes to on the shelf, and the session goes on standing for it. -/
theorem withStore_delete (unrouted : name ≠ routerName)
    (stands : session.StandsFor name options shelf) {locations given : Datum} (listed : Bool)
    (same : given.items = locations.items) :
    ∃ after, (withStore name (fun store => store.delete given) >>= fun _ =>
        return Answer.nothing) session = ((shelf.perform (.delete locations listed)).1, after) ∧
      after.StandsFor name options (shelf.perform (.delete locations listed)).2 := by
  rw [Shelf.perform, ← same]
  cases fit : given.items >>= fun items => items.mapM Datum.toObjectLocation with
  | error fault =>
    obtain ⟨after, ran, still⟩ := withStore_reaches unrouted stands
      (fun store => store.delete given) (World.delete_unfit fit)
    exact ⟨after, Act.bind_error ran, still⟩
  | ok parsed =>
    obtain ⟨items, had, fit⟩ := Except.bind_ok fit
    obtain ⟨after, ran, still⟩ := withStore_reaches unrouted stands
      (fun store => store.delete given) (World.delete_reaches keyable had fit)
    refine ⟨after, ?_, still⟩
    rw [Act.bind_apply, ran]
    dsimp only
    cases World.deleteResult parsed <;> rfl

include keyable in
/-- Deleting takes away the objects at the locations, if all of them are fit. -/
theorem delete_stands (unrouted : name ≠ routerName)
    (stands : session.StandsFor name options shelf) (locations : Datum) (listed : Bool) :
    ∃ after, perform ((StoreCall.delete locations listed).step name) session =
        ((shelf.perform (.delete locations listed)).1, after) ∧
      after.StandsFor name options (shelf.perform (.delete locations listed)).2 := by
  cases listed with
  | false => exact withStore_delete keyable unrouted stands false rfl
  | true =>
    cases had : locations.items with
    | error fault =>
      have unlisted : perform ((StoreCall.delete locations true).step name) session =
          (.error fault, session) := by
        simp only [perform, StoreCall.step, map_eq_pure_bind, Act.bind_apply,
          Act.ofExcept_apply, had, ↓reduceIte]
      rw [unlisted, Shelf.perform, had]
      exact ⟨session, rfl, stands⟩
    | ok items =>
      have went : perform ((StoreCall.delete locations true).step name) session =
          (withStore name (fun store => store.delete (.list items)) >>= fun _ =>
            return Answer.nothing) session := by
        simp only [perform, StoreCall.step, map_eq_pure_bind, Act.bind_apply,
          Act.ofExcept_apply, had, ↓reduceIte, Act.pure_apply]
      rw [went]
      exact withStore_delete keyable unrouted stands true had.symm

/-- Closing the clients is nothing to a shelf. -/
theorem closeClients_stands (stands : session.StandsFor name options shelf) :
    ∃ after, perform (StoreCall.closeClients.step name) session = (.ok .nothing, after) ∧
      after.StandsFor name options shelf := by
  have closes : perform (StoreCall.closeClients.step name) =
      poolOf (StoreCall.closeClients.step name) >>= fun pool => onScene pool.close >>= fun _ =>
        return Answer.nothing := rfl
  have had : poolOf (StoreCall.closeClients.step name) session =
      (.ok (World.store name options).pool, session) := by
    have found : (session.backends.lookup name).bind Backend.pool? =
        some (World.store name options).pool := by
      rw [stands.store]
      rfl
    simp only [poolOf, Act.bind_apply, Act.get, StoreCall.step, found]
    rfl
  have closing : ((World.store name options).pool.close).Reaches shelf.objects (.ok ())
    shelf.objects := World.close_reaches rfl
  obtain ⟨scene, ran, shows⟩ := closing session.scene stands.shows
  refine ⟨{ session with scene }, ?_, stands.store, shows, stands.sinks, stands.named⟩
  rw [closes, Act.bind_ok had, Act.bind_apply, onScene_apply, ran]
  rfl

/-- A session with a new journal. -/
def cleared (session : Session) : Session :=
  { session with scene := { session.scene with journal := [] } }

theorem step_apply (session : Session) (step : Step) :
    session.step step = (⟨(perform step session.cleared).1,
      (perform step session.cleared).2.scene.journal⟩, (perform step session.cleared).2) :=
  rfl

include keyable in
/-- What a step of the session answers and does, the call answers and does on the shelf. -/
theorem step_stands (unrouted : name ≠ routerName)
    (stands : session.StandsFor name options shelf) (call : StoreCall) :
    (session.step (call.step name)).1.result = (shelf.perform call).1 ∧
      (session.step (call.step name)).2.StandsFor name options (shelf.perform call).2 := by
  have cleared : session.cleared.StandsFor name options shelf :=
    ⟨stands.store, stands.shows, stands.sinks, stands.named⟩
  have performs : ∃ after, perform (call.step name) session.cleared =
      ((shelf.perform call).1, after) ∧ after.StandsFor name options (shelf.perform call).2 := by
    cases call with
    | openSink id source => exact openSink_stands unrouted cleared id source
    | useSink id operation => exact useSink_stands keyable cleared id operation
    | read source => exact read_stands keyable unrouted cleared source
    | delete locations listed => exact delete_stands keyable unrouted cleared locations listed
    | closeClients => exact closeClients_stands cleared
  obtain ⟨after, ran, still⟩ := performs
  rw [step_apply, ran]
  exact ⟨rfl, still⟩

include keyable in
/-- So does a row of calls. -/
theorem run_stands (unrouted : name ≠ routerName)
    (stands : session.StandsFor name options shelf) (calls : List StoreCall) :
    (session.run (calls.map (·.step name))).1.map Seen.result = (shelf.run calls).1 ∧
      (session.run (calls.map (·.step name))).2.StandsFor name options (shelf.run calls).2 := by
  induction calls generalizing session shelf with
  | nil => exact ⟨rfl, stands⟩
  | cons call rest ih =>
    obtain ⟨same, still⟩ := step_stands keyable unrouted stands call
    obtain ⟨others, last⟩ := ih still
    exact ⟨List.cons_eq_cons.mpr ⟨same, others⟩, last⟩

end Session

end ObjectStorage
