import ObjectStorage.Proofs.Boundary.Visits
import ObjectStorage.Sink

/-!
# Operations on one place

How a probe, a read and the commit of a sink end (`BucketStore.Ends`): with a problem of the
location before anything is asked of the service, with the answer of one visit, or with a failure of
the store whose cause is the fault of the visit. A probe does not say whether to retry; a read and a
commit do.
-/

namespace ObjectStorage

open Text Time

variable {σ α β : Type}

/-- A failure that says whether to retry. -/
def StorageProblem.IsVerdict : StorageProblem → Prop
  | .throttled .. | .nonRetryable .. => True
  | _ => False

/-- A failure to reach a bucket. -/
def StorageProblem.IsProbe : StorageProblem → Prop
  | .probe _ => True
  | _ => False

/-- A fault from outside the store surfaces as a verdict on it. -/
theorem Fault.Surfaces.verdict {delay : Option Duration} {message : Text} {fault : Fault}
    {problem : StorageProblem} {cause : Cause}
    (surfaces : fault.Surfaces delay message problem cause) (foreign : fault.isStorage = false) :
    cause = .fault fault ∧ problem.IsVerdict := by
  cases surfaces with
  | own cause => cases foreign
  | judged _ given =>
    refine ⟨rfl, ?_⟩
    rcases (Verdict.ofFault_ok given).2 with ⟨_, _, throttled⟩ | ⟨_, fatal⟩
    · rw [throttled]
      trivial
    · rw [fatal]
      trivial

/-- Counting an operation neither changes what comes of it nor asks for anything. -/
theorem Scene.tallied_run (operation : Operation) {act : Act (Scene σ) α} {before between : Scene σ}
    {result : Except Fault α} (ran : act before = (result, between)) :
    ∃ after, tallied operation act before = (result, after) ∧
      after.journal.requests = between.journal.requests := by
  obtain ⟨counters, counted⟩ := tallied_counts operation ran
  refine ⟨_, counted, ?_⟩
  rw [Journal.requests_append, Journal.requests_counts, List.append_nil]

namespace BucketStore

/-- How an operation on one place ends that visits the service once: the place is unfit, the visit
is answered, or the visit's fault is the cause of a failure of a kind. -/
inductive Ends (store : BucketStore σ) (before : Scene σ) (place : Except Fault Location)
    (request : Location → Client → Request) (visit : Location → Act (Scene σ) α)
    (kind : StorageProblem → Prop) : Except Fault β → Scene σ → Prop
  | unfit {problem : LocationProblem} {after : Scene σ}
      (refused : place = .error (.ofLocation problem))
      (unasked : after.journal.requests = before.journal.requests) :
    Ends store before place request visit kind (.error (.ofLocation problem)) after
  | done {location : Location} {reply : α} {answer : β} {after : Scene σ}
      (fit : place = .ok location) (answered : (visit location before).1 = .ok reply)
      (asks : store.AsksOnce (request location) before after) :
    Ends store before place request visit kind (.ok answer) after
  | failed {location : Location} {raised : Fault} {problem : StorageProblem} {after : Scene σ}
      (fit : place = .ok location) (raises : (visit location before).1 = .error raised)
      (asks : store.AsksOnce (request location) before after) (told : kind problem) :
    Ends store before place request visit kind (.error (.storage problem (.fault raised))) after

variable {store : BucketStore σ} {scene : Scene σ}

/-- What was asked for once still was at a later scene, if nothing was asked for in between. -/
theorem AsksOnce.later {request : Client → Request} {before after last : Scene σ}
    (asks : store.AsksOnce request before after)
    (quiet : last.journal.requests = after.journal.requests) :
    store.AsksOnce request before last := by
  obtain ⟨wanted, askers, single, once, told⟩ := asks
  exact ⟨wanted, askers, single, once, quiet.trans told⟩

/-- A guarded visit for a target in a bucket is answered or fails with a verdict on its fault. -/
theorem guarded_visit (behaves : store.Behaves scene.remote) (message : Text) (method : String)
    {target : Datum} {options : ClientOptions}
    (identity : store.pool.options.identityOf target = .ok options) (request : Client → Request)
    {act : Client → Act σ α} (managed : ∀ client state,
      store.pool.remote.Leads scene.remote state → store.Manages (act client state)) :
    ∃ result after,
      store.guarded message (store.visit method target request act) scene = (result, after) ∧
      store.AsksOnce request scene after ∧
      ((∃ reply, (store.visit method target request act scene).1 = .ok reply ∧
          result = .ok reply ∧ ∃ client state, store.pool.remote.Leads scene.remote state ∧
            (act client state).1 = .ok reply) ∨
        ∃ raised problem, (store.visit method target request act scene).1 = .error raised ∧
          result = .error (.storage problem (.fault raised)) ∧ problem.IsVerdict) := by
  obtain ⟨result, after, ran, asks, answers, faults⟩ :=
    store.visit_run behaves method target request managed
  have first : (store.visit method target request act scene).1 = result := by rw [ran]
  cases result with
  | ok reply =>
    exact ⟨_, _, store.guarded_ok ran, asks, .inl ⟨reply, first, rfl, answers reply rfl⟩⟩
  | error raised =>
    rcases faults raised rfl with unnamed | ⟨foreign, judgeable⟩
    · cases identity.symm.trans unnamed
    · obtain ⟨problem, cause, last, judged, surfaces, quiet⟩ :=
        store.guarded_fault message ran judgeable
      obtain ⟨rfl, verdict⟩ := surfaces.verdict foreign
      have requests := quiet.requests
      rw [List.map_nil, List.append_nil] at requests
      exact ⟨_, _, judged, asks.later requests, .inr ⟨raised, problem, first, rfl, verdict⟩⟩

/-- A location with an authority has an identity. -/
theorem identityOf_location {options : StoreOptions} {location : Location}
    (named : location.needAuthority = .ok location.authority) :
    options.identityOf (.location location) = .ok (options.effective location.authority) :=
  StoreOptions.identityOf_of_bucket named

/-- The request of a probe. -/
def headRequest (location : Location) (client : Client) : Request :=
  .headBucket client.number location.authority

/-- The request of a read. -/
def getRequest (location : Location) (client : Client) : Request :=
  .getObject client.number location.authority (Location.keyOfPath location.path)

/-- The request of a commit. -/
def putRequest (payload : List UInt8) (location : Location) (client : Client) : Request :=
  .putObject client.number location.authority (Location.keyOfPath location.path) payload

/-- Counting an operation does not change how it ends. -/
theorem Ends.tallied {place : Except Fault Location} {request : Location → Client → Request}
    {visit : Location → Act (Scene σ) α} {kind : StorageProblem → Prop} (operation : Operation)
    {act : Act (Scene σ) β}
    (ends : store.Ends scene place request visit kind (act scene).1 (act scene).2) :
    store.Ends scene place request visit kind (Scene.tallied operation act scene).1
      (Scene.tallied operation act scene).2 := by
  rcases ran : act scene with ⟨result, between⟩
  obtain ⟨after, counted, quiet⟩ := Scene.tallied_run operation ran
  rw [ran] at ends
  rw [counted]
  cases ends with
  | unfit refused unasked => exact .unfit refused (quiet.trans unasked)
  | done fit answered asks => exact .done fit answered (asks.later quiet)
  | failed fit raises asks told => exact .failed fit raises (asks.later quiet) told

/-- A read ends in an answer, a refusal of its place or a verdict, and has asked once for the object
at most. -/
theorem read_ends (behaves : store.Behaves scene.remote) (source : Datum) :
    store.Ends scene source.toObjectLocation getRequest store.fetch StorageProblem.IsVerdict
      (store.read source scene).1 (store.read source scene).2 := by
  apply Ends.tallied
  cases place : source.toObjectLocation with
  | error fault =>
    obtain ⟨problem, rfl⟩ := Datum.toObjectLocation_error place
    exact .unfit rfl rfl
  | ok location =>
    rw [Act.bind_ok (Act.ofExcept_apply _ scene)]
    have named := (Datum.toObjectLocation_ok place).2.2.1
    obtain ⟨result, after, ran, asks, ⟨reply, answered, rfl, client, state, led, replied⟩ |
      ⟨raised, problem, raises, rfl, verdict⟩⟩ :=
      guarded_visit behaves ("Failed to read " ++ location.text) "get_object"
        (identityOf_location named) (getRequest location)
        (fun client state led => behaves.get state led client location.authority
          (Location.keyOfPath location.path))
    · have fetched : store.guarded _ (store.fetch location) scene = (.ok reply, after) := ran
      obtain ⟨body, shown⟩ := behaves.body state led client _ _ reply replied
      rw [Act.bind_ok fetched, shown]
      exact .done rfl answered asks
    · have failed : store.guarded _ (store.fetch location) scene =
          (.error (.storage problem (.fault raised)), after) := ran
      rw [Act.bind_error failed]
      exact .failed rfl raises asks verdict

/-- A commit ends in the same ways, and has asked once to put the payload at most. -/
theorem commit_ends (behaves : store.Behaves scene.remote) {location : Location}
    (named : location.needAuthority = .ok location.authority) (payload : List UInt8) :
    store.Ends scene (.ok location) (putRequest payload) (fun place => store.put place payload)
      StorageProblem.IsVerdict (store.commit location payload scene).1
      (store.commit location payload scene).2 := by
  apply Ends.tallied
  obtain ⟨result, after, ran, asks, ⟨reply, answered, rfl, _⟩ |
    ⟨raised, problem, raises, rfl, verdict⟩⟩ :=
    guarded_visit behaves ("Failed to write " ++ location.text) "put_object"
      (identityOf_location named) (putRequest payload location)
      (fun client state led => behaves.put state led client location.authority
        (Location.keyOfPath location.path) payload)
  · rw [show store.guarded _ (store.put location payload) scene = _ from ran]
    exact .done rfl answered asks
  · rw [show store.guarded _ (store.put location payload) scene = _ from ran]
    exact .failed rfl raises asks verdict

/-- A ping ends in an answer, a refusal or a failed probe, and has asked once for the bucket at
most. -/
theorem ping_ends (behaves : store.Behaves scene.remote) (source : Datum) :
    store.Ends scene source.toBucketLocation headRequest (fun place => store.head place.authority)
      StorageProblem.IsProbe (store.ping source scene).1 (store.ping source scene).2 := by
  apply Ends.tallied
  cases place : source.toBucketLocation with
  | error fault =>
    obtain ⟨problem, rfl⟩ := Datum.toBucketLocation_error place
    exact .unfit rfl rfl
  | ok location =>
    rw [Act.bind_ok (Act.ofExcept_apply _ scene)]
    obtain ⟨result, after, ran, asks, _, faults⟩ :=
      visit_run behaves "head_bucket" (.text location.authority) (headRequest location)
        (fun client state led => behaves.head state led client location.authority)
    have probed : store.head location.authority scene = (result, after) := ran
    cases result with
    | ok reply =>
      rw [Act.bind_ok (Act.caught_ok probed)]
      exact .done rfl (congrArg Prod.fst probed) asks
    | error raised =>
      have recoverable : raised.isInterrupt = false := by
        rcases faults raised rfl with unnamed | ⟨_, judgeable⟩
        · obtain ⟨problem, rfl⟩ := StoreOptions.identityOf_error unnamed
          rfl
        · exact judgeable.1
      rw [Act.bind_ok (Act.caught_error probed recoverable)]
      exact .failed rfl (congrArg Prod.fst probed) asks trivial

/-- Closes a sink that commits to a location. -/
def closeSink (store : BucketStore σ) (location : Location) : Act (Sink × Scene σ) Unit :=
  Sink.close fun payload => (store.commit location payload).onPart Prod.snd
    fun state scene => (state.1, scene)

/-- Closing a sink that collects commits what it has, and ends as the commit does. Closing any other
sink does nothing. -/
theorem closeSink_ends (behaves : store.Behaves scene.remote) {location : Location}
    (named : location.needAuthority = .ok location.authority) (sink : Sink) :
    match sink.phase with
    | .collecting => store.Ends scene (.ok location) (putRequest sink.payload)
        (fun place => store.put place sink.payload) StorageProblem.IsVerdict
        (store.closeSink location (sink, scene)).1 (store.closeSink location (sink, scene)).2.2
    | _ => store.closeSink location (sink, scene) = (.ok (), (sink, scene)) := by
  obtain ⟨name, phase, buffer?⟩ := sink
  cases phase with
  | collecting => exact store.commit_ends behaves named _
  | closing => rfl
  | closed => rfl
  | aborted => rfl

end BucketStore

end ObjectStorage
