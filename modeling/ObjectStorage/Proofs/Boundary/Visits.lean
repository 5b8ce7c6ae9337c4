import ObjectStorage.Proofs.Delete.Attempt

/-!
# Visits to the service

A probe, a read and the commit of a sink visit the service once: they get a client, for which the
service may be asked, and make one request with it. If the service raises no faults but such as can
be judged (`BucketStore.Behaves`), what comes of a visit is the answer to the request, or a fault
that is known where it came from (`BucketStore.visit_run`).
-/

namespace ObjectStorage

open Text Time

variable {σ α : Type}

/-- The states that making clients and requests lead to from one of them. -/
inductive Remote.Leads (remote : Remote σ) (start : σ) : σ → Prop
  | here : Leads remote start start
  | build {state : σ} (options : ClientOptions) (led : Leads remote start state) :
    Leads remote start (remote.build options state).2
  | head {state : σ} (client : Client) (bucket : Text) (led : Leads remote start state) :
    Leads remote start (remote.headBucket client bucket state).2
  | get {state : σ} (client : Client) (bucket key : Text) (led : Leads remote start state) :
    Leads remote start (remote.getObject client bucket key state).2
  | put {state : σ} (client : Client) (bucket key : Text) (body : List UInt8)
      (led : Leads remote start state) :
    Leads remote start (remote.putObject client bucket key body state).2
  | delete {state : σ} (client : Client) (bucket : Text) (keys : List Text)
      (led : Leads remote start state) :
    Leads remote start (remote.deleteObjects client bucket keys state).2

/-- Exchanges lead from one state to another. -/
theorem Remote.Leads.dialogue {remote : Remote σ} {start before after : σ}
    {exchanges : List Exchange} (led : remote.Leads start before)
    (dialogue : Dialogue remote before exchanges after) : remote.Leads start after := by
  induction exchanges generalizing before with
  | nil =>
    obtain rfl : before = after := dialogue
    exact led
  | cons exchange rest ih =>
    obtain ⟨between, happens, later⟩ := dialogue
    refine ih ?_ later
    cases exchange with
    | build options result =>
      have ran : remote.build options before = (result, between) := happens
      have next := led.build options
      rwa [ran] at next
    | delete client bucket keys response =>
      have ran : remote.deleteObjects client bucket keys before = (response, between) := happens
      have next := led.delete client bucket keys
      rwa [ran] at next

/-- The fault that an exchange ended in. -/
def Exchange.fault? : Exchange → Option Fault
  | .build _ (.error fault) | .delete _ _ _ (.error fault) => some fault
  | _ => none

namespace BucketStore

/-- What came of a request is an answer, or a fault from outside the store that can be judged. -/
def Manages (store : BucketStore σ) (outcome : Except Fault α × σ) : Prop :=
  ∀ fault, outcome.1 = .error fault →
    fault.isStorage = false ∧ store.CanJudge fault outcome.2

/-- From a state on, the service raises no faults but such as come from outside the store and can be
judged; what it answers to reads has a body, and what it answers to deletes is a response. -/
structure Behaves (store : BucketStore σ) (start : σ) : Prop where
  build : ∀ state, store.pool.remote.Leads start state →
    ∀ options, store.Manages (store.pool.remote.build options state)
  head : ∀ state, store.pool.remote.Leads start state →
    ∀ client bucket, store.Manages (store.pool.remote.headBucket client bucket state)
  get : ∀ state, store.pool.remote.Leads start state →
    ∀ client bucket key, store.Manages (store.pool.remote.getObject client bucket key state)
  put : ∀ state, store.pool.remote.Leads start state → ∀ client bucket key body,
    store.Manages (store.pool.remote.putObject client bucket key body state)
  delete : ∀ state, store.pool.remote.Leads start state →
    ∀ client bucket keys, store.Manages (store.pool.remote.deleteObjects client bucket keys state)
  body : ∀ state, store.pool.remote.Leads start state → ∀ client bucket key reply,
    (store.pool.remote.getObject client bucket key state).1 = .ok reply →
      ∃ body, bodyOf reply = .ok body
  response : ∀ state, store.pool.remote.Leads start state → ∀ client bucket keys response,
    (store.pool.remote.deleteObjects client bucket keys state).1 = .ok response →
      response.IsDeleteResponse

/-- Between two scenes the service was asked for one client at most and for one thing at most. -/
def AsksOnce (store : BucketStore σ) (request : Client → Request) (before after : Scene σ) : Prop :=
  ∃ (wanted : List ClientOptions) (askers : List Client), wanted.length ≤ 1 ∧ askers.length ≤ 1 ∧
    after.journal.requests = before.journal.requests ++
      wanted.map store.pool.handover.request ++ askers.map request

/-- A client is got for a target, and one request is made with it. -/
def visit (store : BucketStore σ) (method : String) (target : Datum) (request : Client → Request)
    (act : Client → Act σ α) : Act (Scene σ) α := do
  let client ← store.pool.clientWith method target
  Scene.ask (request client) (act client)

variable {store : BucketStore σ}

/-- The fault of an exchange with a service that behaves comes from outside the store and can be
judged. -/
theorem Behaves.exchange {start before after : σ} (behaves : store.Behaves start)
    (led : store.pool.remote.Leads start before) {exchange : Exchange}
    (happens : exchange.Happens store.pool.remote before after) {fault : Fault}
    (ended : exchange.fault? = some fault) :
    fault.isStorage = false ∧ store.CanJudge fault after := by
  cases exchange with
  | build options result =>
    have managed := behaves.build before led options
    rw [show store.pool.remote.build options before = (result, after) from happens] at managed
    cases result with
    | ok made => cases ended
    | error raised =>
      cases ended
      exact managed _ rfl
  | delete client bucket keys response =>
    have managed := behaves.delete before led client bucket keys
    rw [show store.pool.remote.deleteObjects client bucket keys before = (response, after)
      from happens] at managed
    cases response with
    | ok answer => cases ended
    | error raised =>
      cases ended
      exact managed _ rfl

/-- A service that behaves answers and raises what a store can deal with. -/
theorem Behaves.tameFrom {start : σ} (behaves : store.Behaves start) : store.TameFrom start := by
  intro exchanges between exchange after dialogue happens
  have led : store.pool.remote.Leads start between := Remote.Leads.here.dialogue dialogue
  cases exchange with
  | build options result =>
    cases result with
    | ok made => trivial
    | error fault => exact (behaves.exchange led happens rfl).2
  | delete client bucket keys response =>
    cases response with
    | ok response =>
      have answered := behaves.response between led client bucket keys
      rw [show store.pool.remote.deleteObjects client bucket keys between = (.ok response, after)
        from happens] at answered
      exact answered response rfl
    | error fault => exact (behaves.exchange led happens rfl).2

/-- The faults of a dialogue with a service that behaves come from outside the store. -/
theorem Behaves.foreign {start before last : σ} (behaves : store.Behaves start)
    (led : store.pool.remote.Leads start before) {exchanges : List Exchange}
    (dialogue : Dialogue store.pool.remote before exchanges last) {exchange : Exchange}
    (inside : exchange ∈ exchanges) {fault : Fault} (ended : exchange.fault? = some fault) :
    fault.isStorage = false := by
  induction exchanges generalizing before with
  | nil => cases inside
  | cons first rest ih =>
    obtain ⟨between, happens, later⟩ := dialogue
    rcases List.mem_cons.mp inside with rfl | others
    · exact (behaves.exchange led happens ended).1
    · exact ih (led.dialogue (.single happens)) later others

end BucketStore

namespace ClientPool.Obtains

variable {pool : ClientPool σ} {method : String} {target : Datum} {exchanges : List Exchange}
  {result : Except Fault Client}

/-- To get a client, the service is asked for one at most. -/
theorem wanted (obtains : pool.Obtains method target exchanges result) :
    ∃ wanted : List ClientOptions, wanted.length ≤ 1 ∧
      exchanges.map (Exchange.request pool.handover) = wanted.map pool.handover.request := by
  cases obtains with
  | refused | unkeyable | kept => exact ⟨[], by decide, rfl⟩
  | @failed options | @missing options | @built options =>
    exact ⟨[options], by simp, rfl⟩

end ClientPool.Obtains

namespace BucketStore

variable {store : BucketStore σ} {scene : Scene σ}

/-- A client that cannot be got is one for a target that names no bucket, or leaves a fault that can
be judged. -/
theorem Behaves.clientless (behaves : store.Behaves scene.remote) {method : String} {target : Datum}
    {exchanges : List Exchange} {fault : Fault} {opened : Scene σ}
    (obtains : store.pool.Obtains method target exchanges (.error fault))
    (dialogue : Dialogue store.pool.remote scene.remote exchanges opened.remote) :
    store.pool.options.identityOf target = .error fault ∨
      fault.isStorage = false ∧ store.CanJudge fault opened.remote := by
  cases obtains with
  | refused identity => exact .inl identity
  | unkeyable identity changes => exact .inr ⟨rfl, Fault.judgeable_mishap rfl ..⟩
  | missing identity => exact .inr ⟨rfl, Fault.judgeable_mishap rfl ..⟩
  | @failed options _ identity =>
    obtain ⟨between, happens, same⟩ := dialogue
    obtain rfl : between = opened.remote := same
    exact .inr (behaves.exchange .here happens rfl)

/-- A visit asks the service once. Its answer is one to the request, and its fault is that of a
target without a bucket, or one that can be judged. -/
theorem visit_run (behaves : store.Behaves scene.remote) (method : String) (target : Datum)
    (request : Client → Request) {act : Client → Act σ α}
    (managed : ∀ client state, store.pool.remote.Leads scene.remote state →
      store.Manages (act client state)) :
    ∃ result after, store.visit method target request act scene = (result, after) ∧
      store.AsksOnce request scene after ∧
      (∀ answer, result = .ok answer → ∃ client state,
        store.pool.remote.Leads scene.remote state ∧ (act client state).1 = .ok answer) ∧
      ∀ fault, result = .error fault → store.pool.options.identityOf target = .error fault ∨
        fault.isStorage = false ∧ store.CanJudge fault after.remote := by
  obtain ⟨client, exchanges, opened, got, obtains, unfolds⟩ :=
    store.pool.clientWith_unfolds method target scene
  obtain ⟨wanted, single, wantedRequests⟩ := obtains.wanted
  have requests := unfolds.requests
  rw [wantedRequests] at requests
  cases client with
  | error fault =>
    refine ⟨.error fault, opened, Act.bind_error got, ⟨wanted, [], single, by decide, ?_⟩, nofun,
      ?_⟩
    · rw [requests, List.map_nil, List.append_nil]
    · rintro _ ⟨⟩
      exact behaves.clientless obtains unfolds.dialogue
  | ok client =>
    have led : store.pool.remote.Leads scene.remote opened.remote :=
      Remote.Leads.here.dialogue unfolds.dialogue
    have ran : store.visit method target request act scene =
        Scene.ask (request client) (act client) opened := Act.bind_ok got
    rw [Scene.ask_apply] at ran
    refine ⟨_, _, ran, ⟨wanted, [client], single, by simp, ?_⟩, ?_, ?_⟩
    · dsimp only
      rw [Journal.requests_append, requests]
      rfl
    · exact fun answer answered => ⟨client, opened.remote, led, answered⟩
    · exact fun fault failed => .inr (managed client opened.remote led fault failed)

end BucketStore

end ObjectStorage
