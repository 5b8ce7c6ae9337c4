import ObjectStorage.BucketStore

/-!
# Dialogues with the service

What passes between a store and the remote service is a row of exchanges, each a request and what
came of it. A dialogue is a row of exchanges that the service really had, one state leading to the
next (`Dialogue`). What an act does to a scene is told by its dialogue and by the error records that
it left (`Scene.Unfolds`); getting a client is told in full by `ClientPool.clientWith_unfolds`, and
turning a fault into a failure of the store by `BucketStore.guarded_fault`.
-/

namespace ObjectStorage

open Text Time

variable {σ τ α β : Type}

namespace Act

/-- What comes behind an act that answers goes on with the answer and from the state left. -/
theorem bind_ok {act : Act τ α} {next : α → Act τ β} {state after : τ} {answer : α}
    (ran : act state = (.ok answer, after)) : (act >>= next) state = next answer after := by
  rw [bind_apply, ran]

/-- An act that fails keeps what comes behind it from happening. -/
theorem bind_error {act : Act τ α} {next : α → Act τ β} {state after : τ} {fault : Fault}
    (ran : act state = (.error fault, after)) :
    (act >>= next) state = (.error fault, after) := by
  rw [bind_apply, ran]

/-- There is nothing to catch in an act that answers. -/
theorem caught_ok {act : Act τ α} {state after : τ} {answer : α}
    (ran : act state = (.ok answer, after)) : act.caught state = (.ok (.ok answer), after) := by
  unfold caught
  rw [ran]

/-- A fault that is no interruption is caught. -/
theorem caught_error {act : Act τ α} {state after : τ} {fault : Fault}
    (ran : act state = (.error fault, after)) (recoverable : fault.isInterrupt = false) :
    act.caught state = (.ok (.error fault), after) := by
  unfold caught
  rw [ran]
  simp only [recoverable, Bool.false_eq_true, ↓reduceIte]

/-- An interruption goes through. -/
theorem caught_interrupt {act : Act τ α} {state after : τ} {fault : Fault}
    (ran : act state = (.error fault, after)) (interrupts : fault.isInterrupt = true) :
    act.caught state = (.error fault, after) := by
  unfold caught
  rw [ran]
  simp only [interrupts, ↓reduceIte]

/-- What an act on a part comes to when its answer is made into another. -/
theorem map_onPart_apply (act : Act τ α) (part : σ → τ) (put : σ → τ → σ) (make : α → β)
    (state : σ) : (make <$> act.onPart part put) state =
      ((act (part state)).1.map make, put state (act (part state)).2) := by
  rw [map_eq_pure_bind, bind_apply]
  unfold onPart
  rcases act (part state) with ⟨_ | _, _⟩ <;> rfl

end Act

/-- An exchange with the service: what was asked for, and what came of it. -/
inductive Exchange
  | build (options : ClientOptions) (result : Except Fault (Option Client))
  | delete (client : Client) (bucket : Text) (keys : List Text) (response : Except Fault Datum)

namespace Exchange

/-- The request that opens an exchange. -/
def request (handover : Handover) : Exchange → Request
  | .build options _ => handover.request options
  | .delete client bucket keys _ => .deleteObjects client.number bucket keys

/-- A service in one state does its part of an exchange and is in another state then. -/
def Happens (remote : Remote σ) (before : σ) : Exchange → σ → Prop
  | .build options result, after => remote.build options before = (result, after)
  | .delete client bucket keys response, after =>
    remote.deleteObjects client bucket keys before = (response, after)

end Exchange

/-- Exchanges that a service has one after the other, on its way from one state to another. -/
def Dialogue (remote : Remote σ) : σ → List Exchange → σ → Prop
  | before, [], after => before = after
  | before, exchange :: rest, after =>
    ∃ between, exchange.Happens remote before between ∧ Dialogue remote between rest after

/-- An exchange is a dialogue by itself. -/
theorem Dialogue.single {remote : Remote σ} {before after : σ} {exchange : Exchange}
    (happens : exchange.Happens remote before after) :
    Dialogue remote before [exchange] after :=
  ⟨after, happens, rfl⟩

/-- Two dialogues of which one goes on where the other ended are one. -/
theorem Dialogue.append {remote : Remote σ} {before between after : σ}
    {first second : List Exchange} (left : Dialogue remote before first between)
    (right : Dialogue remote between second after) :
    Dialogue remote before (first ++ second) after := by
  induction first generalizing before with
  | nil =>
    obtain rfl : before = between := left
    exact right
  | cons exchange rest ih =>
    obtain ⟨middle, happens, later⟩ := left
    exact ⟨middle, happens, ih later⟩

/-- The error records of a journal. -/
def Journal.errors (journal : Journal) : List Record :=
  journal.records.filter (·.severity = .error)

theorem Journal.errors_append (first second : Journal) :
    errors (first ++ second) = first.errors ++ second.errors := by
  simp only [errors, records_append, List.filter_append]

/-- Counting asks for nothing. -/
theorem Journal.requests_counts (counters : List Counter) :
    requests (counters.map .count) = [] := by
  simp [requests, Function.comp_def, Event.request?]

/-- Counting is no error. -/
theorem Journal.errors_counts (counters : List Counter) : errors (counters.map .count) = [] := by
  simp [errors, records, Function.comp_def, Event.record?]

/-- From one scene to another, a pool has had a dialogue with its service and the error records
`graves` were written; the requests of the journal are those of the dialogue. -/
structure Scene.Unfolds (pool : ClientPool σ) (before : Scene σ) (exchanges : List Exchange)
    (graves : List Record) (after : Scene σ) : Prop where
  dialogue : Dialogue pool.remote before.remote exchanges after.remote
  requests : after.journal.requests =
    before.journal.requests ++ exchanges.map (Exchange.request pool.handover)
  errors : after.journal.errors = before.journal.errors ++ graves

namespace Scene

variable {pool : ClientPool σ}

/-- What touches neither the service nor the requests and error records of the journal. -/
theorem Unfolds.quiet {before after : Scene σ} (remote : before.remote = after.remote)
    (requests : after.journal.requests = before.journal.requests)
    (errors : after.journal.errors = before.journal.errors) :
    Unfolds pool before [] [] after :=
  ⟨remote, by simpa using requests, by simpa using errors⟩

/-- What unfolds behind one another unfolds together. -/
theorem Unfolds.append {before between after : Scene σ} {first second : List Exchange}
    {early late : List Record} (left : Unfolds pool before first early between)
    (right : Unfolds pool between second late after) :
    Unfolds pool before (first ++ second) (early ++ late) after := by
  refine ⟨left.dialogue.append right.dialogue, ?_, ?_⟩
  · rw [right.requests, left.requests, List.map_append, List.append_assoc]
  · rw [right.errors, left.errors, List.append_assoc]

/-- Counters leave no trace. -/
theorem Unfolds.counted {before after : Scene σ} {exchanges : List Exchange} {graves : List Record}
    (unfolds : Unfolds pool before exchanges graves after) (counters : List Counter) :
    Unfolds pool before exchanges graves
      { after with journal := after.journal ++ counters.map .count } := by
  refine ⟨unfolds.dialogue, ?_, ?_⟩
  · rw [Journal.requests_append, Journal.requests_counts, List.append_nil, unfolds.requests]
  · rw [Journal.errors_append, Journal.errors_counts, List.append_nil, unfolds.errors]

@[simp] theorem note_apply (event : Event) (scene : Scene σ) :
    note event scene = (.ok (), { scene with journal := scene.journal ++ [event] }) := rfl

@[simp] theorem log_apply (severity : Severity) (message : Text) (details : Datum)
    (scene : Scene σ) : log severity message details scene = (.ok (), { scene with
      journal := scene.journal ++ [.record ⟨severity, storeLogger, message, details⟩] }) := rfl

@[simp] theorem pool_apply (name : Text) (scene : Scene σ) :
    Scene.pool name scene = (.ok (scene.pools name), scene) := rfl

@[simp] theorem setPool_apply (name : Text) (state : PoolState) (scene : Scene σ) :
    setPool name state scene = (.ok (), { scene with
      pools := fun other => if other = name then state else scene.pools other }) := rfl

@[simp] theorem ask_apply (request : Request) (act : Act σ α) (scene : Scene σ) :
    ask request act scene = ((act scene.remote).1,
      { scene with
        remote := (act scene.remote).2
        journal := scene.journal ++ [.request request] }) := rfl

/-- Asking is one exchange. -/
theorem ask_unfolds (exchange : Exchange) {scene : Scene σ} {act : Act σ α}
    (happens : exchange.Happens pool.remote scene.remote (act scene.remote).2) :
    Unfolds pool scene [exchange] [] (ask (exchange.request pool.handover) act scene).2 := by
  refine ⟨.single happens, ?_, ?_⟩
  · simp [Journal.requests, Event.request?]
  · simp [Journal.errors, Journal.records, Event.record?]

/-- Noting what is neither a request nor an error record leaves no trace. -/
theorem note_unfolds (scene : Scene σ) (event : Event) (noRequest : event.request? = none)
    (noError : Journal.errors [event] = []) :
    Unfolds pool scene [] [] { scene with journal := scene.journal ++ [event] } := by
  refine Unfolds.quiet rfl ?_ ?_
  · simp [Journal.requests, noRequest]
  · rw [Journal.errors_append, noError, List.append_nil]

/-- Counting an operation steps counters, and does nothing else to what the operation leaves. -/
theorem tallied_counts (operation : Operation) {act : Act (Scene σ) α} {before between : Scene σ}
    {result : Except Fault α} (ran : act before = (result, between)) :
    ∃ counters : List Counter, tallied operation act before =
      (result, { between with journal := between.journal ++ counters.map .count }) := by
  have twice (counter : Counter) (result : Except Fault α) :
      (do
        note (.count counter)
        note (.count (.durations operation))
        Act.ofExcept result) between =
      (result, { between with
        journal := between.journal ++ [counter, .durations operation].map .count }) := by
    simp [Act.bind_apply]
  unfold tallied
  simp only [Act.bind_apply, Act.outcome_apply, ran]
  cases result with
  | ok answer => exact ⟨_, twice _ _⟩
  | error fault =>
    cases fault with
    | storage problem cause => exact ⟨_, twice _ _⟩
    | _ => exact ⟨[.durations operation], rfl⟩

/-- Counting an operation does not change what it ends in. -/
theorem tallied_result (operation : Operation) (act : Act (Scene σ) α) (scene : Scene σ) :
    (tallied operation act scene).1 = (act scene).1 := by
  rcases ran : act scene with ⟨result, between⟩
  obtain ⟨_, counted⟩ := tallied_counts operation ran
  rw [counted]

end Scene

/-- How the client for a target comes, or fails to come: the target or its options are of no use,
the client is kept already, or the service is asked for one. -/
inductive ClientPool.Obtains (pool : ClientPool σ) (method : String) (target : Datum) :
    List Exchange → Except Fault Client → Prop
  | refused {fault : Fault} (identity : pool.options.identityOf target = .error fault) :
    Obtains pool method target [] (.error fault)
  | unkeyable {options : ClientOptions} {typeName : String}
      (identity : pool.options.identityOf target = .ok options)
      (changes : options.toDatum.unkeyable? = some typeName) :
    Obtains pool method target [] (.error (.mishap (.unkeyable typeName)))
  | kept {options : ClientOptions} (identity : pool.options.identityOf target = .ok options)
      (client : Client) :
    Obtains pool method target [] (.ok client)
  | failed {options : ClientOptions} {fault : Fault}
      (identity : pool.options.identityOf target = .ok options) :
    Obtains pool method target [.build options (.error fault)] (.error fault)
  | missing {options : ClientOptions} (identity : pool.options.identityOf target = .ok options) :
    Obtains pool method target [.build options (.ok none)]
      (.error (.mishap (.noMethod "NoneType" method)))
  | built {options : ClientOptions} (identity : pool.options.identityOf target = .ok options)
      (client : Client) :
    Obtains pool method target [.build options (.ok (some client))] (.ok client)

namespace ClientPool

variable (pool : ClientPool σ)

/-- Making a client is one exchange, whose result is the answer. -/
theorem create_unfolds (options : ClientOptions) (scene : Scene σ) :
    ∃ result after, pool.create options scene = (result, after) ∧
      Scene.Unfolds pool scene [.build options result] [] after := by
  unfold create
  rcases acted : pool.remote.build options scene.remote with ⟨result, remote⟩
  cases result with
  | error fault =>
    simp only [Act.bind_apply, Scene.pool_apply, Scene.setPool_apply, Scene.ask_apply, acted]
    refine ⟨_, _, rfl, .single acted, ?_, ?_⟩
    · simp [Journal.requests, Event.request?, Exchange.request]
    · simp [Journal.errors, Journal.records, Event.record?]
  | ok made =>
    simp only [Act.bind_apply, Scene.pool_apply, Scene.setPool_apply, Scene.ask_apply, acted,
      Scene.note_apply, Scene.log_apply, Act.pure_apply]
    refine ⟨_, _, rfl, .single acted, ?_, ?_⟩
    · simp [Journal.requests, Event.request?, Exchange.request]
    · simp [Journal.errors, Journal.records, Event.record?]

/-- To obtain a client for a method unfolds as the exchanges by which it is obtained, and without an
error record. -/
theorem clientWith_unfolds (method : String) (target : Datum) (scene : Scene σ) :
    ∃ result exchanges after, pool.clientWith method target scene = (result, after) ∧
      pool.Obtains method target exchanges result ∧
      Scene.Unfolds pool scene exchanges [] after := by
  have unmoved : Scene.Unfolds pool scene [] [] scene := .quiet rfl rfl rfl
  unfold clientWith clientAt clientOf
  cases identity : pool.options.identityOf target with
  | error fault =>
    simp only [Act.bind_apply, Act.ofExcept_apply]
    exact ⟨_, _, _, rfl, .refused identity, unmoved⟩
  | ok options =>
    cases changes : options.toDatum.unkeyable? with
    | some typeName =>
      simp only [Act.bind_apply, Act.ofExcept_apply, changes, Act.fail_apply]
      exact ⟨_, _, _, rfl, .unkeyable identity changes, unmoved⟩
    | none =>
      cases known : (scene.pools pool.name).client? options with
      | some client =>
        simp only [Act.bind_apply, Act.ofExcept_apply, changes, Scene.pool_apply, known,
          Act.pure_apply]
        exact ⟨_, _, _, rfl, .kept identity client, unmoved⟩
      | none =>
        obtain ⟨result, after, created, unfolds⟩ := pool.create_unfolds options scene
        simp only [Act.bind_apply, Act.ofExcept_apply, changes, Scene.pool_apply, known, created]
        cases result with
        | error fault => exact ⟨_, _, _, rfl, .failed identity, unfolds⟩
        | ok made =>
          cases made with
          | none => exact ⟨_, _, _, rfl, .missing identity, unfolds⟩
          | some client => exact ⟨_, _, _, rfl, .built identity client, unfolds⟩

end ClientPool

end ObjectStorage
