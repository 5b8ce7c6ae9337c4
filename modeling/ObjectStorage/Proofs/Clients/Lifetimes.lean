import ObjectStorage.Proofs.Clients.Calls
import ObjectStorage.Proofs.Clients.Closing
import ObjectStorage.Proofs.Desks.Sinks

/-!
# Lifetimes of clients

The clients that a service made for a pool are those that were closed and those that the pool keeps
(`ClientPool.Balanced`). Every call to a store keeps this balance (`BucketStore.answer_balanced`),
and closing the pool leaves nothing on one side of it (`ClientPool.Balanced.close`). So a pool that
was just closed has had all clients closed that it ever had, and from then on requests are made with
other clients only.
-/

namespace ObjectStorage

open Text

variable {σ α : Type}

/-- The client that a request is made with. -/
def Request.client? : Request → Option Nat
  | .headBucket client _ | .getObject client _ _ | .putObject client _ _ _
  | .deleteObjects client _ _ | .close client => some client
  | .create _ | .connect _ | .backend _ _ => none

/-- A service tells by its state the clients that it made. Each is another one and can be closed,
and closing it raises no fault. -/
structure Remote.Registers (remote : Remote σ) (made : σ → List Nat) : Prop where
  built : ∀ options state client, (remote.build options state).1 = .ok (some client) →
    client.closable = true ∧ client.number ∉ made state ∧
      made (remote.build options state).2 = made state ++ [client.number]
  unbuilt : ∀ options state, (∀ client, (remote.build options state).1 ≠ .ok (some client)) →
    made (remote.build options state).2 = made state
  head : ∀ client bucket state, made (remote.headBucket client bucket state).2 = made state
  get : ∀ client bucket key state, made (remote.getObject client bucket key state).2 = made state
  put : ∀ client bucket key body state,
    made (remote.putObject client bucket key body state).2 = made state
  delete : ∀ client bucket keys state,
    made (remote.deleteObjects client bucket keys state).2 = made state
  closed : ∀ client state, (remote.close client state).1 = .ok () ∧
    made (remote.close client state).2 = made state

namespace PoolState

/-- The clients that a pool keeps, when it keeps another for options that had none. -/
theorem cached_putClient {options : ClientOptions} (made : Option Client)
    {clients : List (ClientOptions × Option Client)}
    (unknown : (clients.find? fun entry => entry.1.alike options).bind (·.2) = none) :
    ((putClient made options clients).filterMap (·.2)).Perm
      (clients.filterMap (·.2) ++ made.toList) := by
  induction clients with
  | nil => cases made <;> exact .refl _
  | cons entry rest ih =>
    obtain ⟨own, kept⟩ := entry
    rw [List.find?_cons] at unknown
    unfold putClient
    cases alike : own.alike options with
    | true =>
      rw [alike] at unknown
      obtain rfl : kept = none := unknown
      rw [if_pos rfl]
      have gone : (((own, none) : ClientOptions × Option Client) :: rest).filterMap (·.2) =
          rest.filterMap (·.2) := rfl
      rw [gone]
      cases made with
      | none => exact .of_eq (List.append_nil _).symm
      | some client => exact (List.perm_append_singleton client _).symm
    | false =>
      rw [alike] at unknown
      rw [if_neg Bool.false_ne_true]
      cases kept with
      | none => exact ih unknown
      | some client => exact (ih unknown).cons client

/-- To note that options are in use changes none of the cached clients. -/
theorem cached_enter (state : PoolState) (options : ClientOptions) :
    (state.enter options).cached = state.cached := by
  unfold cached
  rw [enter_clients]

/-- Where no client was known, the client that is kept is the only new one in the cache. -/
theorem cached_keep {state : PoolState} {options : ClientOptions}
    (unknown : state.client? options = none) (made : Option Client) :
    ((state.enter options).keep options made).cached.Perm (state.cached ++ made.toList) := by
  unfold cached keep
  dsimp only
  rw [enter_clients]
  exact cached_putClient made unknown

/-- A client that is known is cached. -/
theorem mem_cached_of_client? {state : PoolState} {options : ClientOptions} {client : Client}
    (known : state.client? options = some client) : client ∈ state.cached := by
  obtain ⟨entry, found, own⟩ := Option.bind_eq_some_iff.mp known
  exact List.mem_filterMap.mpr ⟨entry, List.mem_of_find?_eq_some found, own⟩

end PoolState

/-- The books of a pool. What the service made are the clients that had been closed before, those
that the journal tells were closed, and those that the pool keeps; no request of the journal was
made with one of some old clients. -/
structure ClientPool.Balanced (pool : ClientPool σ) (made : σ → List Nat) (closed old : List Nat)
    (scene : Scene σ) : Prop where
  tidy : (scene.pools pool.name).Tidy
  closable : ∀ client ∈ (scene.pools pool.name).cached, client.closable = true
  distinct : (made scene.remote).Nodup
  balance : (closed ++ scene.journal.closings ++
    (scene.pools pool.name).cached.map (·.number)).Perm (made scene.remote)
  known : ∀ number ∈ old, number ∈ made scene.remote
  apart : ∀ client ∈ (scene.pools pool.name).cached, client.number ∉ old
  askers : ∀ request ∈ scene.journal.requests, ∀ number, request.client? = some number →
    number ∉ old

namespace ClientPool

variable {pool : ClientPool σ} {made : σ → List Nat} {closed old : List Nat} {scene : Scene σ}

/-- Nothing was made for a pool that nobody has used. -/
theorem Balanced.start {remote : σ} (nothing : made remote = []) (pool : ClientPool σ) :
    pool.Balanced made [] [] (.start remote) where
  tidy := .empty
  closable := nofun
  distinct := by
    rw [show made (Scene.start remote).remote = [] from nothing]
    exact .nil
  balance := by
    rw [show made (Scene.start remote).remote = [] from nothing]
    exact .nil
  known := nofun
  apart := nofun
  askers := nofun

/-- The books go on with a service that made some clients, which the pool keeps, and with requests
that close nothing. -/
theorem Balanced.later (balanced : pool.Balanced made closed old scene) {after : Scene σ}
    {news : List Client} {more : Journal} (tidy : (after.pools pool.name).Tidy)
    (cached : (after.pools pool.name).cached.Perm ((scene.pools pool.name).cached ++ news))
    (registered : made after.remote = made scene.remote ++ news.map (·.number))
    (fresh : ∀ client ∈ news, client.closable = true ∧ client.number ∉ made scene.remote)
    (distinct : (news.map (·.number)).Nodup) (journal : after.journal = scene.journal ++ more)
    (unclosing : more.closings = [])
    (askers : ∀ request ∈ more.requests, ∀ number, request.client? = some number → number ∉ old) :
    pool.Balanced made closed old after where
  tidy := tidy
  closable client inside := (List.mem_append.mp (cached.mem_iff.mp inside)).elim
    (balanced.closable client) fun new => (fresh client new).1
  distinct := by
    rw [registered]
    refine balanced.distinct.append distinct fun number before new => ?_
    obtain ⟨client, inside, rfl⟩ := List.mem_map.mp new
    exact (fresh client inside).2 before
  balance := by
    rw [registered, journal, Journal.closings_append, unclosing, List.append_nil]
    refine ((cached.map _).append_left _).trans ?_
    rw [List.map_append, ← List.append_assoc]
    exact balanced.balance.append_right _
  known number inside := by
    rw [registered]
    exact List.mem_append_left _ (balanced.known number inside)
  apart client inside := (List.mem_append.mp (cached.mem_iff.mp inside)).elim
    (balanced.apart client) fun new before =>
      (fresh client new).2 (balanced.known _ before)
  askers request inside := by
    rw [journal, Journal.requests_append] at inside
    exact (List.mem_append.mp inside).elim (balanced.askers request) (askers request)

/-- So they do when no client is made. -/
theorem Balanced.still (balanced : pool.Balanced made closed old scene) {after : Scene σ}
    {more : Journal} (tidy : (after.pools pool.name).Tidy)
    (cached : (after.pools pool.name).cached = (scene.pools pool.name).cached)
    (registered : made after.remote = made scene.remote)
    (journal : after.journal = scene.journal ++ more) (unclosing : more.closings = [])
    (askers : ∀ request ∈ more.requests, ∀ number, request.client? = some number → number ∉ old) :
    pool.Balanced made closed old after := by
  have same : (after.pools pool.name).cached.Perm ((scene.pools pool.name).cached ++ []) := by
    rw [cached, List.append_nil]
  have none_made : made after.remote = made scene.remote ++ [].map Client.number := by
    rw [registered, List.map_nil, List.append_nil]
  exact balanced.later tidy same none_made nofun .nil journal unclosing askers

/-- A request with another client than the old ones leaves the books balanced, unless it closes. -/
theorem Balanced.asked (balanced : pool.Balanced made closed old scene) {request : Request}
    {act : Act σ α} (registered : made (act scene.remote).2 = made scene.remote)
    (unclosing : request.closed? = none)
    (apart : ∀ number, request.client? = some number → number ∉ old) :
    pool.Balanced made closed old (Scene.ask request act scene).2 := by
  rw [Scene.ask_apply]
  refine balanced.still balanced.tidy rfl registered rfl ?_ ?_
  · simp [Journal.closings, Journal.requests, Event.request?, unclosing]
  · intro other inside
    obtain rfl : other = request := by simpa [Journal.requests, Event.request?] using inside
    exact apart

/-- The books do not depend on what is not a request. -/
theorem Balanced.noted (balanced : pool.Balanced made closed old scene) {event : Event}
    (noRequest : event.request? = none) :
    pool.Balanced made closed old { scene with journal := scene.journal ++ [event] } := by
  have quiet : Journal.requests [event] = [] := by
    simp [Journal.requests, noRequest]
  refine balanced.still balanced.tidy rfl rfl rfl ?_ ?_
  · unfold Journal.closings
    rw [quiet]
    rfl
  · rw [quiet]
    rintro _ ⟨⟩

/-- With a new journal, what the old one told to be closed has been closed before. -/
theorem Balanced.cleared (balanced : pool.Balanced made closed old scene) :
    pool.Balanced made (closed ++ scene.journal.closings) old { scene with journal := [] } where
  tidy := balanced.tidy
  closable := balanced.closable
  distinct := balanced.distinct
  balance := by
    rw [show Journal.closings [] = [] from rfl, List.append_nil]
    exact balanced.balance
  known := balanced.known
  apart := balanced.apart
  askers := nofun

/-- In the books of a pool that keeps no client, all clients may be called old. -/
theorem Balanced.renewed (balanced : pool.Balanced made closed old scene)
    (emptied : (scene.pools pool.name).cached = []) :
    pool.Balanced made (closed ++ scene.journal.closings) (made scene.remote)
      { scene with journal := [] } where
  tidy := balanced.tidy
  closable := balanced.closable
  distinct := balanced.distinct
  balance := balanced.cleared.balance
  known _ := id
  apart client inside := by
    rw [show ({ scene with journal := [] } : Scene σ).pools pool.name = scene.pools pool.name
      from rfl, emptied] at inside
    cases inside
  askers := nofun

/-- What a pool without clients ever had has been closed. -/
theorem Balanced.all_closed (balanced : pool.Balanced made closed old scene)
    (emptied : (scene.pools pool.name).cached = []) :
    (closed ++ scene.journal.closings).Perm (made scene.remote) := by
  have balance := balanced.balance
  rwa [emptied, List.map_nil, List.append_nil] at balance

variable (registers : pool.remote.Registers made)
include registers

/-- Asking for the client of a target leaves the books balanced, and the client is no old one. -/
theorem Balanced.clientAt (balanced : pool.Balanced made closed old scene) (target : Datum) :
    pool.Balanced made closed old (pool.clientAt target scene).2 ∧
      ∀ client, (pool.clientAt target scene).1 = .ok (some client) → client.number ∉ old := by
  have unclosing (options : ClientOptions) :
      (pool.handover.request options).closed? = none ∧
        (pool.handover.request options).client? = none := by
    cases pool.handover <;> exact ⟨rfl, rfl⟩
  have answers := pool.clientAt_answers target scene
  have tidy := answers.tidy balanced.tidy
  generalize (pool.clientAt target scene).1 = result at answers ⊢
  generalize (pool.clientAt target scene).2 = after at answers tidy ⊢
  cases answers with
  | refused identity =>
    refine ⟨balanced, ?_⟩
    rintro _ ⟨⟩
  | unkeyable identity changes =>
    refine ⟨balanced, ?_⟩
    rintro _ ⟨⟩
  | kept identity isKey known =>
    refine ⟨balanced, ?_⟩
    rintro _ ⟨⟩
    exact balanced.apart _ (PoolState.mem_cached_of_client? known)
  | @failed options fault after identity isKey unknown built state journal =>
    have registered := registers.unbuilt options scene.remote (by rw [built]; rintro _ ⟨⟩)
    rw [built] at registered
    refine ⟨?_, by rintro _ ⟨⟩⟩
    refine balanced.still tidy (by rw [state, PoolState.cached_enter]) registered journal ?_ ?_
    · simp [Journal.closings, Journal.requests, Event.request?, (unclosing options).1]
    · simp [Journal.requests, Event.request?, (unclosing options).2]
  | @made options client after identity isKey unknown built state journal =>
    have cached := PoolState.cached_keep unknown client
    rw [← state] at cached
    have quiet : Journal.closings [.request (pool.handover.request options), .count .clientsCreated,
        .record (createdRecord options (after.pools pool.name).clients.length)] = [] := by
      simp [Journal.closings, Journal.requests, Event.request?, (unclosing options).1]
    have askers : ∀ request ∈ Journal.requests [.request (pool.handover.request options),
        .count .clientsCreated,
        .record (createdRecord options (after.pools pool.name).clients.length)],
        ∀ number, request.client? = some number → number ∉ old := by
      simp [Journal.requests, Event.request?, (unclosing options).2]
    cases client with
    | none =>
      have registered := registers.unbuilt options scene.remote (by rw [built]; rintro _ ⟨⟩)
      rw [built] at registered
      refine ⟨balanced.later tidy cached ?_ ?_ .nil journal quiet askers, ?_⟩
      · rw [registered]
        exact (List.append_nil _).symm
      · rintro _ ⟨⟩
      · rintro _ ⟨⟩
    | some client =>
      obtain ⟨closable, fresh, registered⟩ :=
        registers.built options scene.remote client (by rw [built])
      rw [built] at registered
      refine ⟨balanced.later tidy cached registered ?_ (List.nodup_singleton _) journal quiet
        askers, ?_⟩
      · rintro _ inside
        cases List.mem_singleton.mp inside
        exact ⟨closable, fresh⟩
      · rintro _ ⟨⟩
        exact fun before => fresh (balanced.known _ before)

/-- No client of a service that registers its clients is kept from being closed. -/
theorem Closings.of_registers {before after : σ} {tried : List Client} {result : Except Fault Unit}
    (closings : Closings pool.remote before tried result after) :
    result = .ok () ∧ made after = made before := by
  induction closings with
  | nothing state => exact ⟨rfl, rfl⟩
  | @closed client rest result before between after ran later ih =>
    have registered := (registers.closed client before).2
    rw [ran] at registered
    exact ⟨ih.1, ih.2.trans registered⟩
  | @raised client fault before after ran =>
    have closes := (registers.closed client before).1
    rw [ran] at closes
    cases closes

/-- Closing a pool closes what it keeps, each client once. -/
theorem Balanced.close (balanced : pool.Balanced made closed old scene) :
    pool.Balanced made closed old (pool.close scene).2 ∧ (pool.close scene).1 = .ok () ∧
      ((pool.close scene).2.pools pool.name).cached = [] := by
  obtain ⟨tried, left, closes⟩ := pool.close_closes scene
  obtain ⟨whole, registered⟩ := Closings.of_registers registers closes.goes
  have gone : ((pool.close scene).2.pools pool.name).cached = [] := by
    unfold PoolState.cached
    rw [closes.state, PoolState.forget_clients balanced.tidy]
    rfl
  have cached : tried.Perm (scene.pools pool.name).cached := by
    have split := closes.split
    rw [closes.whole whole, List.append_nil] at split
    rw [split]
    have closable : (scene.pools pool.name).cached.filter (·.closable) =
        (scene.pools pool.name).cached := List.filter_eq_self.mpr balanced.closable
    exact closable ▸ balanced.tidy.inOrder_perm.filter _
  refine ⟨⟨closes.state ▸ balanced.tidy.forget, ?_, registered ▸ balanced.distinct, ?_,
    registered ▸ balanced.known, ?_, ?_⟩, whole, gone⟩
  · rw [gone]
    exact nofun
  · rw [gone, registered, closes.closings, List.map_nil, List.append_nil, ← List.append_assoc]
    exact ((cached.map _).append_left _).trans balanced.balance
  · rw [gone]
    exact nofun
  · have unasked : (closingNotes (scene.pools pool.name).inOrder (pool.close scene).1).requests =
        [] := by
      unfold closingNotes
      split
      · split <;> rfl
      · rfl
    intro request inside number asked
    rw [closes.journal, Journal.requests_append, Journal.requests_append, unasked,
      List.append_nil] at inside
    rcases List.mem_append.mp inside with before | closing
    · exact balanced.askers request before number asked
    · have own : ∃ client ∈ tried, Request.close client.number = request := by
        simpa [Journal.requests, Event.request?, List.filterMap_map, Function.comp_def] using closing
      obtain ⟨client, triedIt, rfl⟩ := own
      cases asked
      exact balanced.apart client (cached.mem_iff.mp triedIt)

/-- Both calls to a pool leave the books balanced, and the client that is answered is no old one. -/
theorem Balanced.call (balanced : pool.Balanced made closed old scene) (call : PoolCall) :
    pool.Balanced made closed old (pool.call call scene).2 ∧
      ∀ client, (pool.call call scene).1 = .ok (some client) → client.number ∉ old := by
  cases call with
  | clientAt target => exact balanced.clientAt registers target
  | close =>
    obtain ⟨after, whole, -⟩ := balanced.close registers
    have answers : (pool.call .close scene).1 = .ok none := by
      change ((pool.close >>= fun _ => pure none : Act (Scene σ) (Option Client)) scene).1 = _
      rw [Act.bind_apply]
      generalize pool.close scene = ran at whole
      obtain ⟨_, _⟩ := ran
      obtain rfl := whole
      rfl
    rw [call_close, answers]
    exact ⟨after, nofun⟩

end ClientPool

namespace BucketStore

variable {store : BucketStore σ} {made : σ → List Nat} {closed old : List Nat}
  (registers : store.pool.remote.Registers made)
include registers

/-- What a store does within its operations leaves the books balanced; it uses no old client. -/
theorem matches_balanced (closed old : List Nat) :
    store.Matches (Holding (store.pool.Balanced made closed old))
      (fun client => client.number ∉ old) store := by
  constructor
  case client =>
    rintro target scene _ ⟨rfl, balanced⟩
    obtain ⟨after, apart⟩ := balanced.clientAt registers target
    refine ⟨?_, rfl, after⟩
    cases result : (store.pool.clientAt target scene).1 with
    | error fault => exact .error fault
    | ok client => exact .ok ⟨rfl, fun own same => apart own (same ▸ result)⟩
  case head =>
    exact fun client bucket apart => .of_keeps fun scene balanced =>
      balanced.asked (registers.head client bucket _) rfl fun _ same => Option.some.inj same ▸ apart
  case get =>
    exact fun client bucket key apart => .of_keeps fun scene balanced =>
      balanced.asked (registers.get client bucket key _) rfl
        fun _ same => Option.some.inj same ▸ apart
  case put =>
    exact fun client bucket key body apart => .of_keeps fun scene balanced =>
      balanced.asked (registers.put client bucket key body _) rfl
        fun _ same => Option.some.inj same ▸ apart
  case delete =>
    exact fun client bucket keys apart => .of_keeps fun scene balanced =>
      balanced.asked (registers.delete client bucket keys _) rfl
        fun _ same => Option.some.inj same ▸ apart
  case context => exact fun message => .of_keeps fun scene balanced => balanced
  case record => exact fun record => .of_keeps fun scene balanced => balanced.noted rfl

/-- Whatever is called, the clients that were made are those that are cached and those that were
closed. -/
theorem answer_balanced {desk : Desk σ} (sinks : store.HasSinks desk)
    (balanced : store.pool.Balanced made closed old desk.scene) (call : ClientCall) :
    store.pool.Balanced made closed old (store.answer call desk).2.scene := by
  have same := matches_balanced registers closed old
  have counts : CountsPair (Holding (store.pool.Balanced made closed old)) :=
    fun counter => .of_keeps fun scene balanced => balanced.noted rfl
  have clients (target : Datum) : (store.pool.clientAt target).Pairs
      (Holding (store.pool.Balanced made closed old)) Eq (store.pool.clientAt target) :=
    .of_keeps fun scene balanced => (balanced.clientAt registers target).1
  have closes : store.pool.close.Pairs (Holding (store.pool.Balanced made closed old)) Eq
      store.pool.close :=
    .of_keeps fun scene balanced => (balanced.close registers).1
  have answers := answer_pairs (fun _ => rfl) (same.toObjectStore_pairs counts) clients
    (fun target => (EndsAlike.refl _).mono fun _ _ equal => congrArg ClientAnswer.identity equal)
    closes call
  have alike : desk.Alike (Holding (store.pool.Balanced made closed old)) desk :=
    ⟨⟨rfl, balanced⟩, sinks.pairs fun location payload =>
      (same.commit_counted location payload).pairs counts⟩
  exact (answers desk desk alike).2.scene.2

end BucketStore

end ObjectStorage
