import ObjectStorage.Proofs.Boundary.Operations
import ObjectStorage.Proofs.Clients.Registry
import ObjectStorage.Proofs.Delete.Batch

/-!
# What an act asks for

An act asks for something by noting requests in the journal. What all requests of an act have in
common (`Act.AsksOnly`) is put together from its parts (`Act.AsksOnly.bind`); counting, judging and
logging ask for nothing. A visit to the service asks for the client of its target and makes its
request with the client that the target has there (`BucketStore.visit_asksOnly`).
-/

namespace ObjectStorage

open Text Time

variable {σ α β : Type} {holds : Request → Prop} {scene : Scene σ}

/-- All requests that an act notes in a scene are of one kind. -/
def Act.AsksOnly (act : Act (Scene σ) α) (scene : Scene σ) (holds : Request → Prop) : Prop :=
  ∃ asked, (act scene).2.journal.requests = scene.journal.requests ++ asked ∧
    ∀ request ∈ asked, holds request

namespace Act.AsksOnly

variable {act : Act (Scene σ) α}

theorem quiet (same : (act scene).2.journal.requests = scene.journal.requests) :
    act.AsksOnly scene holds :=
  ⟨[], by rw [same, List.append_nil], nofun⟩

theorem mono {wider : Request → Prop} (asks : act.AsksOnly scene holds)
    (weaken : ∀ request, holds request → wider request) : act.AsksOnly scene wider := by
  obtain ⟨asked, told, all⟩ := asks
  exact ⟨asked, told, fun request inside => weaken request (all request inside)⟩

/-- Another act that leaves the same requests asks for the same. -/
theorem of_same {other : Act (Scene σ) β} (asks : act.AsksOnly scene holds)
    (same : (other scene).2.journal.requests = (act scene).2.journal.requests) :
    other.AsksOnly scene holds := by
  obtain ⟨asked, told, all⟩ := asks
  exact ⟨asked, same.trans told, all⟩

theorem bind {next : α → Act (Scene σ) β} (first : act.AsksOnly scene holds)
    (later : ∀ answer after, act scene = (.ok answer, after) → (next answer).AsksOnly after holds) :
    (act >>= next).AsksOnly scene holds := by
  rcases ran : act scene with ⟨result, between⟩
  cases result with
  | error fault =>
    apply first.of_same
    rw [Act.bind_error ran, ran]
  | ok answer =>
    obtain ⟨asked, told, all⟩ := first
    obtain ⟨others, toldLater, allLater⟩ := later answer between ran
    refine ⟨asked ++ others, ?_, List.forall_mem_append.mpr ⟨all, allLater⟩⟩
    rw [ran] at told
    rw [Act.bind_ok ran, toldLater, told, List.append_assoc]

theorem pure (answer : α) : (Pure.pure answer : Act (Scene σ) α).AsksOnly scene holds :=
  quiet rfl

theorem fail (fault : Fault) : (Act.fail fault : Act (Scene σ) α).AsksOnly scene holds :=
  quiet rfl

theorem ofExcept (result : Except Fault α) : (Act.ofExcept result).AsksOnly scene holds :=
  quiet rfl

theorem caught (asks : act.AsksOnly scene holds) : act.caught.AsksOnly scene holds := by
  apply asks.of_same
  unfold Act.caught
  rcases act scene with ⟨_ | fault, _⟩
  · dsimp only
    split <;> rfl
  · rfl

theorem note (event : Event) (noRequest : event.request? = none) :
    (Scene.note event).AsksOnly scene holds := by
  apply quiet
  simp [Journal.requests, noRequest]

theorem ask {request : Request} (wanted : holds request) (remotely : Act σ α) :
    (Scene.ask request remotely).AsksOnly scene holds := by
  refine ⟨[request], ?_, List.forall_mem_singleton.mpr wanted⟩
  simp [Journal.requests, Event.request?]

theorem tallied (operation : Operation) (asks : act.AsksOnly scene holds) :
    (Scene.tallied operation act).AsksOnly scene holds := by
  rcases ran : act scene with ⟨result, between⟩
  obtain ⟨after, counted, quietly⟩ := Scene.tallied_run operation ran
  apply asks.of_same
  rw [counted, ran, quietly]

theorem failJudged (context : FailureContext) (fault : Fault) :
    (ObjectStorage.failJudged (α := α) context fault).AsksOnly scene holds := by
  have judged : (judge context fault).AsksOnly scene holds := by
    unfold judge
    split
    · exact pure _
    · exact bind (ofExcept _) fun _ _ _ => bind (note _ rfl) fun _ _ _ => pure _
  apply judged.bind
  intro failure _ _
  split
  · exact fail _
  · exact fail _

theorem guarded (store : BucketStore σ) (message : Text) (asks : act.AsksOnly scene holds) :
    (store.guarded message act).AsksOnly scene holds := by
  apply asks.caught.bind
  intro result after _
  split
  · exact pure _
  · exact bind (quiet rfl) fun _ _ _ => failJudged _ _

end Act.AsksOnly

namespace ClientPool

/-- A pool asks the service for the client of a target's identity, or for nothing. -/
theorem clientAt_asksOnly (pool : ClientPool σ) {target : Datum} {options : ClientOptions}
    (identity : pool.options.identityOf target = .ok options) :
    (pool.clientAt target).AsksOnly scene (· = pool.handover.request options) := by
  have answers := pool.clientAt_answers target scene
  rcases ran : pool.clientAt target scene with ⟨result, after⟩
  rw [ran] at answers
  have told (events : Journal) (journal : after.journal = scene.journal ++ events)
      (all : ∀ request ∈ events.requests, request = pool.handover.request options) :
      (pool.clientAt target).AsksOnly scene (· = pool.handover.request options) := by
    refine ⟨events.requests, ?_, all⟩
    rw [ran, journal, Journal.requests_append]
  cases answers with
  | refused | unkeyable | kept => exact told [] (List.append_nil _).symm nofun
  | failed own isKey unknown built state journal =>
    cases identity.symm.trans own
    exact told _ journal (by simp [Journal.requests, Event.request?])
  | made own isKey unknown built state journal =>
    cases identity.symm.trans own
    exact told _ journal (by simp [Journal.requests, Event.request?])

/-- The client for a method is the one that the target has. -/
theorem clientWith_ok (pool : ClientPool σ) {method : String} {target : Datum} {client : Client}
    {after : Scene σ} (got : pool.clientWith method target scene = (.ok client, after)) :
    pool.clientAt target scene = (.ok (some client), after) := by
  unfold clientWith at got
  rcases ran : pool.clientAt target scene with ⟨result, between⟩
  cases result with
  | error fault =>
    rw [Act.bind_error ran] at got
    cases got
  | ok made =>
    rw [Act.bind_ok ran] at got
    cases made with
    | none => cases got
    | some client =>
      cases got
      rfl

theorem clientWith_asksOnly (pool : ClientPool σ) (method : String) {target : Datum}
    {options : ClientOptions} (identity : pool.options.identityOf target = .ok options) :
    (pool.clientWith method target).AsksOnly scene (· = pool.handover.request options) := by
  refine (pool.clientAt_asksOnly identity).bind fun made _ _ => ?_
  split
  · exact .pure _
  · exact .fail _

end ClientPool

/-- A request that is made for a target in a scene: for the client of its identity, or with the
client that the target has there. -/
inductive ClientPool.Asks (pool : ClientPool σ) (target : Datum) (scene : Scene σ)
    (sends : Client → Request → Prop) : Request → Prop
  | opens {options : ClientOptions} (identity : pool.options.identityOf target = .ok options) :
    Asks pool target scene sends (pool.handover.request options)
  | sends {client : Client} {request : Request}
      (own : (pool.clientAt target scene).1 = .ok (some client)) (sent : sends client request) :
    Asks pool target scene sends request

/-- With the client of a target, an act asks only for what it makes of that client. -/
theorem ClientPool.clientWith_bind_asksOnly (pool : ClientPool σ) (method : String)
    {target : Datum} {options : ClientOptions}
    (identity : pool.options.identityOf target = .ok options)
    {sends : Client → Request → Prop} {next : Client → Act (Scene σ) α}
    (later : ∀ client after, (next client).AsksOnly after (sends client)) :
    (pool.clientWith method target >>= next).AsksOnly scene (pool.Asks target scene sends) := by
  apply Act.AsksOnly.bind
  · refine (pool.clientWith_asksOnly method identity).mono ?_
    rintro _ rfl
    exact .opens identity
  · intro client after got
    have own := congrArg Prod.fst (pool.clientWith_ok got)
    exact (later client after).mono fun request sent => .sends own sent

/-- A visit makes its request with the client of its target. -/
theorem BucketStore.visit_asksOnly (store : BucketStore σ) (method : String) {target : Datum}
    {options : ClientOptions} (identity : store.pool.options.identityOf target = .ok options)
    (request : Client → Request) (act : Client → Act σ α) :
    (store.visit method target request act).AsksOnly scene
      (store.pool.Asks target scene fun client sent => sent = request client) := by
  apply store.pool.clientWith_bind_asksOnly method identity
  intro client after
  exact Act.AsksOnly.ask (by rfl) (act client)

namespace BucketStore

variable (store : BucketStore σ)

/-- The requests for the pieces of some keys in a bucket. -/
def sendsPieces (bucket : Text) (pieces : List (List Text)) (client : Client)
    (sent : Request) : Prop :=
  ∃ piece ∈ pieces, sent = .deleteObjects client.number bucket piece

theorem deletePieces_asksOnly (client : Client) (bucket : Text) (pieces : List (List Text))
    (scene : Scene σ) : (store.deletePieces client bucket pieces).AsksOnly scene
      (sendsPieces bucket pieces client) := by
  induction pieces generalizing scene with
  | nil => exact .pure _
  | cons keys rest ih =>
    rw [deletePieces_cons]
    apply Act.AsksOnly.bind
    · have sent : sendsPieces bucket (keys :: rest) client
          (.deleteObjects client.number bucket keys) := ⟨keys, List.mem_cons_self, rfl⟩
      exact (Act.AsksOnly.ask sent _).guarded store _
    intro response after _
    apply Act.AsksOnly.bind (.ofExcept _)
    intro errors last _
    apply Act.AsksOnly.bind
    · apply (ih last).mono
      rintro _ ⟨piece, inside, rfl⟩
      exact ⟨piece, List.mem_cons_of_mem _ inside, rfl⟩
    · exact fun _ _ _ => .pure _

/-- The delete in a bucket makes its requests with the client of the bucket. -/
theorem deleteFrom_asksOnly {bucket : Text} {options : ClientOptions}
    (identity : store.pool.options.identityOf (.text bucket) = .ok options) (keys : List Text)
    (scene : Scene σ) : (store.deleteFrom bucket keys).AsksOnly scene
      (store.pool.Asks (.text bucket) scene (sendsPieces bucket (chunksOf batchLimit keys))) := by
  unfold deleteFrom
  apply Act.AsksOnly.bind
  · apply ((store.pool.clientWith_asksOnly "delete_objects" identity).guarded store _).mono
    rintro _ rfl
    exact .opens identity
  intro client after got
  have own := congrArg Prod.fst (store.pool.clientWith_ok (store.guarded_answer got))
  apply Act.AsksOnly.bind
  · exact (store.deletePieces_asksOnly client bucket _ after).mono fun _ sent => .sends own sent
  intro errors last _
  split
  · exact .bind (.ofExcept _) fun _ _ _ => .fail _
  · exact .pure _

/-- What follows on the first bucket of a batch goes on in the scene that the bucket left. -/
theorem deleteGroups_after {bucket : Text} {keys : List Text} {result : Except Fault Unit}
    {between : Scene σ} (tried : store.deleteFrom bucket keys scene = (result, between)) :
    (∃ next : Scene σ, next.journal.requests = between.journal.requests ∧
      ∀ rest, (store.deleteGroups ((bucket, keys) :: rest) scene).2 =
        (store.deleteGroups rest next).2) ∨
    ∀ rest, (store.deleteGroups ((bucket, keys) :: rest) scene).2 = between := by
  cases result with
  | ok nothing =>
    refine .inl ⟨between, rfl, fun rest => ?_⟩
    rw [store.deleteGroups_ok tried]
  | error fault =>
    rcases fault.isStorage_cases with ⟨problem, cause, rfl⟩ | foreign
    · obtain ⟨next, unfolds, goes⟩ := store.deleteGroups_failed tried
      have requests := unfolds.requests
      rw [List.map_nil, List.append_nil] at requests
      refine .inl ⟨next, requests, fun rest => ?_⟩
      rw [goes]
      rcases later : store.deleteGroups rest next with ⟨_ | _, after⟩
      · rw [Act.bind_error later]
      · rw [Act.bind_ok later]
        rfl
    · refine .inr fun rest => ?_
      rw [store.deleteGroups_stopped foreign tried]

/-- A request for one of the buckets of a batch, in the scene that the buckets before it left. -/
def AsksInTurn (groups : List (Text × List Text)) (scene : Scene σ) (request : Request) : Prop :=
  ∃ earlier bucket keys later, groups = earlier ++ (bucket, keys) :: later ∧
    store.pool.Asks (.text bucket) (store.deleteGroups earlier scene).2
      (sendsPieces bucket (chunksOf batchLimit keys)) request

/-- A batch asks for its buckets one after the other. -/
theorem deleteGroups_asksOnly {groups : List (Text × List Text)}
    (identified : ∀ group ∈ groups, ∃ options,
      store.pool.options.identityOf (.text group.1) = .ok options) (scene : Scene σ) :
    (store.deleteGroups groups).AsksOnly scene (store.AsksInTurn groups scene) := by
  induction groups generalizing scene with
  | nil => exact .pure _
  | cons group rest ih =>
    obtain ⟨bucket, keys⟩ := group
    obtain ⟨⟨options, identity⟩, identified⟩ := List.forall_mem_cons.mp identified
    rcases tried : store.deleteFrom bucket keys scene with ⟨result, between⟩
    obtain ⟨asked, told, all⟩ := store.deleteFrom_asksOnly identity keys scene
    rw [tried] at told
    have first : ∀ request ∈ asked, store.AsksInTurn ((bucket, keys) :: rest) scene request :=
      fun request inside => ⟨[], bucket, keys, rest, rfl, all request inside⟩
    rcases store.deleteGroups_after tried with ⟨next, quietly, goes⟩ | stops
    · obtain ⟨others, toldLater, allLater⟩ := ih identified next
      refine ⟨asked ++ others, ?_, List.forall_mem_append.mpr ⟨first, ?_⟩⟩
      · rw [goes, toldLater, quietly, told, List.append_assoc]
      -- The first bucket stands in front of those that were before the request.
      · intro request inside
        obtain ⟨earlier, other, own, later, turn, asks⟩ := allLater request inside
        refine ⟨(bucket, keys) :: earlier, other, own, later, ?_, ?_⟩
        · rw [turn, List.cons_append]
        · rw [goes]
          exact asks
    · refine ⟨asked, ?_, first⟩
      rw [stops, told]

end BucketStore

end ObjectStorage
