import ObjectStorage.Proofs.Clients.Keys
import ObjectStorage.Proofs.Dialogue

/-!
# Registries of clients

What a pool knows are its clients by what their options stand for (`PoolState.table`), and the keys
that it was ever asked for (`PoolState.used`). Closing goes along the keys and not along the
clients, so no client is missed only as long as every client has its key among them. In every
registry that calls lead to it has, and no key has two clients (`ClientPool.Reachable.tidy`); so
the row that closing goes through is that of all clients (`PoolState.Tidy.inOrder_perm`).
-/

namespace ObjectStorage

open Text Time

variable {σ : Type}

namespace PoolState

/-- The clients of a pool by what their options stand for. -/
def table (state : PoolState) : List (KeyValue × Option Client) :=
  state.clients.map fun entry => (entry.1.key, entry.2)

/-- The keys that a pool has an entry for. -/
def kept (state : PoolState) : List KeyValue :=
  state.table.map (·.1)

/-- The keys that a pool was asked for, in the order of their first use. -/
def used (state : PoolState) : List KeyValue :=
  state.order.map ClientOptions.key

/-- The clients that a pool keeps. -/
def cached (state : PoolState) : List Client :=
  state.clients.filterMap (·.2)

/-- No key has two entries or was entered twice, and every key with an entry was entered. -/
structure Tidy (state : PoolState) : Prop where
  keys : ∀ entry ∈ state.clients, entry.1.IsKey
  usedKeys : ∀ options ∈ state.order, options.IsKey
  single : state.kept.Nodup
  once : state.used.Nodup
  entered : state.kept ⊆ state.used

variable {state : PoolState} {options : ClientOptions} {made : Option Client}

/-- The client of options is the one that the table has under their key. -/
theorem client?_eq (keys : ∀ entry ∈ state.clients, entry.1.IsKey) (isKey : options.IsKey) :
    state.client? options = (state.table.lookup options.key).join := by
  obtain ⟨clients, order⟩ := state
  unfold client? table
  dsimp only at keys ⊢
  induction clients with
  | nil => rfl
  | cons entry rest ih =>
    obtain ⟨ownIsKey, restKeys⟩ := List.forall_mem_cons.mp keys
    have alike := ClientOptions.alike_iff ownIsKey isKey
    by_cases same : entry.1.key = options.key
    · rw [List.find?_cons, alike.mpr same, List.map_cons, List.lookup_cons, ← same,
        beq_self_eq_true]
      rfl
    · have unlike : entry.1.alike options = false :=
        Bool.eq_false_iff.mpr fun equal => same (alike.mp equal)
      have differs : (options.key == entry.1.key) = false :=
        beq_eq_false_iff_ne.mpr fun equal => same equal.symm
      rw [List.find?_cons, unlike, List.map_cons, List.lookup_cons, differs]
      exact ih restKeys

/-- To note that options are in use keeps the clients. -/
theorem enter_clients (state : PoolState) (options : ClientOptions) :
    (state.enter options).clients = state.clients := by
  unfold enter
  split <;> rfl

/-- Options that are noted are put behind the ones in use, unless their key is there. -/
theorem enter_used (usedKeys : ∀ options ∈ state.order, options.IsKey) (isKey : options.IsKey) :
    (state.enter options).used =
      if options.key ∈ state.used then state.used else state.used ++ [options.key] := by
  have known : (state.order.any fun other => other.alike options) = true ↔
      options.key ∈ state.used := by
    unfold used
    rw [List.any_eq_true, List.mem_map]
    constructor
    · rintro ⟨other, inside, alike⟩
      exact ⟨other, inside, (ClientOptions.alike_iff (usedKeys other inside) isKey).mp alike⟩
    · rintro ⟨other, inside, same⟩
      exact ⟨other, inside, (ClientOptions.alike_iff (usedKeys other inside) isKey).mpr same⟩
  unfold enter
  by_cases entered : options.key ∈ state.used
  · rw [if_pos (known.mpr entered), if_pos entered]
  · rw [if_neg (fun equal => entered (known.mp equal)), if_neg entered]
    simp [used]

/-- A client that is kept is put into the table under the key of its options. -/
theorem keep_table (keys : ∀ entry ∈ state.clients, entry.1.IsKey) (isKey : options.IsKey)
    (made : Option Client) :
    (state.keep options made).table = putEntry state.table options.key made := by
  obtain ⟨clients, order⟩ := state
  unfold keep table
  dsimp only at keys ⊢
  induction clients with
  | nil => rfl
  | cons entry rest ih =>
    obtain ⟨ownIsKey, restKeys⟩ := List.forall_mem_cons.mp keys
    have alike := ClientOptions.alike_iff ownIsKey isKey
    by_cases same : entry.1.key = options.key
    · rw [putClient, if_pos (alike.mpr same), List.map_cons, List.map_cons, putEntry, if_pos same]
    · rw [putClient, if_neg (fun equal => same (alike.mp equal)), List.map_cons, List.map_cons,
        putEntry, if_neg same, ih restKeys]

/-- Keeping a client adds its key to those that are kept, unless it is there. -/
theorem keep_kept (keys : ∀ entry ∈ state.clients, entry.1.IsKey) (isKey : options.IsKey)
    (made : Option Client) : (state.keep options made).kept =
      if options.key ∈ state.kept then state.kept else state.kept ++ [options.key] := by
  unfold kept
  rw [keep_table keys isKey made, map_fst_putEntry]

/-- An entry is under the options that are put or under ones that were there. -/
theorem mem_putClient {clients : List (ClientOptions × Option Client)}
    {entry : ClientOptions × Option Client} (member : entry ∈ putClient made options clients) :
    entry.1 = options ∨ ∃ old ∈ clients, old.1 = entry.1 := by
  induction clients with
  | nil => exact .inl (congrArg Prod.fst (List.mem_singleton.mp member))
  | cons first rest ih =>
    unfold putClient at member
    split at member
    · rcases List.mem_cons.mp member with rfl | later
      · exact .inr ⟨first, List.mem_cons_self, rfl⟩
      · exact .inr ⟨entry, List.mem_cons_of_mem _ later, rfl⟩
    · rcases List.mem_cons.mp member with rfl | later
      · exact .inr ⟨entry, List.mem_cons_self, rfl⟩
      · rcases ih later with new | ⟨old, inside, same⟩
        · exact .inl new
        · exact .inr ⟨old, List.mem_cons_of_mem _ inside, same⟩

/-- A pool that was never used is tidy. -/
theorem Tidy.empty : PoolState.empty.Tidy where
  keys := nofun
  usedKeys := nofun
  single := List.nodup_nil
  once := List.nodup_nil
  entered := List.nil_subset _

/-- It stays so when options are noted. -/
theorem Tidy.enter (tidy : state.Tidy) (isKey : options.IsKey) : (state.enter options).Tidy := by
  have sameClients := enter_clients state options
  have sameKept : (state.enter options).kept = state.kept := by
    unfold kept table
    rw [sameClients]
  have nextUsed := enter_used tidy.usedKeys isKey
  constructor
  · rw [sameClients]
    exact tidy.keys
  · intro other inside
    unfold PoolState.enter at inside
    split at inside
    · exact tidy.usedKeys other inside
    · rcases List.mem_append.mp inside with old | new
      · exact tidy.usedKeys other old
      · exact List.mem_singleton.mp new ▸ isKey
  · rw [sameKept]
    exact tidy.single
  · rw [nextUsed]
    split
    · exact tidy.once
    · next fresh => simpa using tidy.once.concat fresh
  · rw [sameKept, nextUsed]
    split
    · exact tidy.entered
    · exact List.subset_append_of_subset_left _ tidy.entered

/-- Options that were just entered are in use. -/
theorem Tidy.mem_enter (tidy : state.Tidy) (isKey : options.IsKey) :
    options.key ∈ (state.enter options).used := by
  rw [enter_used tidy.usedKeys isKey]
  split
  · assumption
  · exact List.mem_append_right _ (List.mem_singleton_self _)

/-- It stays so when a client is kept for options that were noted. -/
theorem Tidy.keep (tidy : state.Tidy) (isKey : options.IsKey)
    (entered : options.key ∈ state.used) (made : Option Client) :
    (state.keep options made).Tidy := by
  have nextKept := keep_kept tidy.keys isKey made
  constructor
  · intro entry inside
    rcases mem_putClient inside with new | ⟨old, member, same⟩
    · exact new ▸ isKey
    · exact same ▸ tidy.keys old member
  · exact tidy.usedKeys
  · rw [nextKept]
    split
    · exact tidy.single
    · next fresh => simpa using tidy.single.concat fresh
  · exact tidy.once
  · rw [nextKept]
    split
    · exact tidy.entered
    · exact List.append_subset.mpr
        ⟨tidy.entered, List.cons_subset.mpr ⟨entered, List.nil_subset _⟩⟩

/-- In a tidy pool no options have two entries. -/
theorem Tidy.options_nodup (tidy : state.Tidy) : (state.clients.map (·.1)).Nodup := by
  apply List.Nodup.of_map ClientOptions.key
  rw [List.map_map]
  have single := tidy.single
  unfold kept table at single
  rw [List.map_map] at single
  exact single

/-- Going along the keys in use finds every client. -/
theorem Tidy.covered (tidy : state.Tidy) {entry : ClientOptions × Option Client}
    (inside : entry ∈ state.clients) : ∃ options ∈ state.order, entry.1.alike options = true := by
  have key : entry.1.key ∈ state.kept := by
    apply List.mem_map.mpr
    exact ⟨_, List.mem_map_of_mem inside, rfl⟩
  obtain ⟨options, entered, same⟩ := List.mem_map.mp (tidy.entered key)
  exact ⟨options, entered, (ClientOptions.alike_iff (tidy.keys entry inside)
    (tidy.usedKeys options entered)).mpr same.symm⟩

/-- Forgetting leaves no client, as the keys of all clients were entered. -/
theorem forget_clients (tidy : state.Tidy) : state.forget.clients = [] := by
  apply List.filter_eq_nil_iff.mpr
  intro entry inside
  have found : (state.order.any fun options => entry.1.alike options) = true :=
    List.any_eq_true.mpr (tidy.covered inside)
  simp [found]

/-- A tidy pool that forgets its clients stays tidy. -/
theorem Tidy.forget (tidy : state.Tidy) : state.forget.Tidy := by
  have none_left := forget_clients tidy
  have nothing : state.forget.kept = [] := by
    unfold kept table
    rw [none_left]
    rfl
  constructor
  · rw [none_left]
    exact nofun
  · exact tidy.usedKeys
  · rw [nothing]
    exact List.nodup_nil
  · exact tidy.once
  · rw [nothing]
    exact List.nil_subset _

/-- Going along the keys in use meets every client once. -/
theorem Tidy.inOrder_perm (tidy : state.Tidy) : state.inOrder.Perm state.cached := by
  have found : state.inOrder =
      (state.used.filterMap fun key => state.table.lookup key).filterMap id := by
    unfold inOrder used
    rw [List.filterMap_filterMap, List.filterMap_map]
    apply List.filterMap_congr
    intro options inside
    rw [client?_eq tidy.keys (tidy.usedKeys options inside)]
    rfl
  have all : state.cached = (state.table.map (·.2)).filterMap id := by
    unfold cached table
    rw [List.filterMap_map, List.filterMap_map]
    rfl
  have covered : ∀ entry ∈ state.table, entry.1 ∈ state.used :=
    fun entry inside => tidy.entered (List.mem_map_of_mem inside)
  rw [found, all]
  exact (filterMap_lookup_perm tidy.single tidy.once covered).filterMap id

end PoolState

/-- The record of a new client, with how many are kept then. -/
def ClientPool.createdRecord (options : ClientOptions) (kept : Nat) : Record :=
  ⟨.info, storeLogger, createdText options, createdDetails options kept⟩

/-- What asking a pool for the client of a target comes to: the target or its options are of no
use, a client is kept, or the service is asked for one, which it makes or does not. -/
inductive ClientPool.Answers (pool : ClientPool σ) (target : Datum) (before : Scene σ) :
    Except Fault (Option Client) → Scene σ → Prop
  | refused {fault : Fault} (identity : pool.options.identityOf target = .error fault) :
    Answers pool target before (.error fault) before
  | unkeyable {options : ClientOptions} {typeName : String}
      (identity : pool.options.identityOf target = .ok options)
      (changes : options.toDatum.unkeyable? = some typeName) :
    Answers pool target before (.error (.mishap (.unkeyable typeName))) before
  | kept {options : ClientOptions} {client : Client}
      (identity : pool.options.identityOf target = .ok options) (isKey : options.IsKey)
      (known : (before.pools pool.name).client? options = some client) :
    Answers pool target before (.ok (some client)) before
  | failed {options : ClientOptions} {fault : Fault} {after : Scene σ}
      (identity : pool.options.identityOf target = .ok options) (isKey : options.IsKey)
      (unknown : (before.pools pool.name).client? options = none)
      (built : pool.remote.build options before.remote = (.error fault, after.remote))
      (state : after.pools pool.name = (before.pools pool.name).enter options)
      (journal : after.journal = before.journal ++ [.request (pool.handover.request options)]) :
    Answers pool target before (.error fault) after
  | made {options : ClientOptions} {client : Option Client} {after : Scene σ}
      (identity : pool.options.identityOf target = .ok options) (isKey : options.IsKey)
      (unknown : (before.pools pool.name).client? options = none)
      (built : pool.remote.build options before.remote = (.ok client, after.remote))
      (state : after.pools pool.name =
        ((before.pools pool.name).enter options).keep options client)
      (journal : after.journal = before.journal ++
        [.request (pool.handover.request options), .count .clientsCreated,
          .record (createdRecord options (after.pools pool.name).clients.length)]) :
    Answers pool target before (.ok client) after

/-- Clients are closed one after the other, up to the first that raises a fault. -/
inductive Closings (remote : Remote σ) : σ → List Client → Except Fault Unit → σ → Prop
  | nothing (state : σ) : Closings remote state [] (.ok ()) state
  | closed {client : Client} {rest : List Client} {result : Except Fault Unit}
      {before between after : σ} (ran : remote.close client before = (.ok (), between))
      (later : Closings remote between rest result after) :
    Closings remote before (client :: rest) result after
  | raised {client : Client} {fault : Fault} {before after : σ}
      (ran : remote.close client before = (.error fault, after)) :
    Closings remote before [client] (.error fault) after

/-- The record of clients that were closed. -/
def ClientPool.closedRecord (count : Nat) : Record :=
  ⟨.info, storeLogger, "s3_clients_closed count=" ++ natText count, .null⟩

/-- What is noted at the end of closing some clients. -/
def ClientPool.closingNotes (clients : List Client) : Except Fault Unit → Journal
  | .ok _ => if clients.isEmpty then [] else [.record (closedRecord clients.length)]
  | .error _ => []

/-- What closing a pool comes to: it forgets its clients, those that can be closed are closed in
the order of first use, and the ones behind a fault are left. -/
structure ClientPool.Closes (pool : ClientPool σ) (before : Scene σ) (tried left : List Client)
    (result : Except Fault Unit) (after : Scene σ) : Prop where
  state : after.pools pool.name = (before.pools pool.name).forget
  split : tried ++ left = (before.pools pool.name).inOrder.filter (·.closable)
  goes : Closings pool.remote before.remote tried result after.remote
  whole : result = .ok () → left = []
  journal : after.journal = before.journal ++
    (tried.map (fun client => Event.request (.close client.number)) ++
      closingNotes (before.pools pool.name).inOrder result)

namespace ClientPool

variable (pool : ClientPool σ)

/-- What asking for the client of a target can do is one of the answers of a pool. -/
theorem clientAt_answers (target : Datum) (scene : Scene σ) :
    pool.Answers target scene (pool.clientAt target scene).1 (pool.clientAt target scene).2 := by
  unfold clientAt clientOf
  cases identity : pool.options.identityOf target with
  | error fault =>
    simp only [Act.bind_apply, Act.ofExcept_apply]
    exact .refused identity
  | ok options =>
    cases changes : options.toDatum.unkeyable? with
    | some typeName =>
      simp only [Act.bind_apply, Act.ofExcept_apply, changes, Act.fail_apply]
      exact .unkeyable identity changes
    | none =>
      cases known : (scene.pools pool.name).client? options with
      | some client =>
        simp only [Act.bind_apply, Act.ofExcept_apply, changes, Scene.pool_apply, known,
          Act.pure_apply]
        exact .kept identity changes known
      | none =>
        unfold create
        rcases built : pool.remote.build options scene.remote with ⟨result, remote⟩
        cases result with
        | error fault =>
          simp only [Act.bind_apply, Act.ofExcept_apply, changes, Scene.pool_apply, known,
            Scene.setPool_apply, Scene.ask_apply, built]
          exact .failed identity changes known built (if_pos rfl) rfl
        | ok client =>
          simp only [Act.bind_apply, Act.ofExcept_apply, changes, Scene.pool_apply, known,
            Scene.setPool_apply, Scene.ask_apply, built, Scene.note_apply, Scene.log_apply,
            Act.pure_apply]
          apply Answers.made identity changes known built
          · simp only [↓reduceIte]
          · simp [createdRecord]

/-- A row of clients is closed in its order up to the first close that raises; those that cannot be
closed are passed over. -/
theorem closeAll_run (clients : List Client) (scene : Scene σ) :
    ∃ (tried left : List Client) (result : Except Fault Unit) (after : Scene σ),
      pool.closeAll clients scene = (result, after) ∧ after.pools = scene.pools ∧
      tried ++ left = clients.filter (·.closable) ∧
      Closings pool.remote scene.remote tried result after.remote ∧
      (result = .ok () → left = []) ∧ after.journal = scene.journal ++
        tried.map fun client => Event.request (.close client.number) := by
  induction clients generalizing scene with
  | nil => exact ⟨[], [], .ok (), scene, rfl, rfl, rfl, .nothing _, fun _ => rfl, by simp⟩
  | cons client rest ih =>
    unfold closeAll
    by_cases closable : client.closable = true
    · rcases closed : pool.remote.close client scene.remote with ⟨outcome, remote⟩
      let between : Scene σ :=
        { scene with remote, journal := scene.journal ++ [.request (.close client.number)] }
      cases outcome with
      | error fault =>
        refine ⟨[client], rest.filter (·.closable), .error fault, between, ?_, rfl, ?_,
          .raised closed, nofun, rfl⟩
        · simp only [closable, ↓reduceIte, Act.bind_apply, Scene.ask_apply, closed, between]
        · simp [closable]
      | ok nothing =>
        obtain ⟨tried, left, result, after, ran, pools, split, closings, whole, journal⟩ :=
          ih between
        refine ⟨client :: tried, left, result, after, ?_, pools, ?_, .closed closed closings,
          whole, ?_⟩
        · simp only [closable, ↓reduceIte, Act.bind_apply, Scene.ask_apply, closed]
          exact ran
        · simp [closable, split]
        · simp [journal, between]
    · obtain ⟨tried, left, result, after, ran, pools, split, closings, whole, journal⟩ := ih scene
      refine ⟨tried, left, result, after, ?_, pools, ?_, closings, whole, journal⟩
      · simp only [closable, Bool.false_eq_true, ↓reduceIte]
        exact ran
      · simp [closable, split]

/-- To close a pool forgets its clients and closes them. -/
theorem close_closes (scene : Scene σ) : ∃ tried left,
    pool.Closes scene tried left (pool.close scene).1 (pool.close scene).2 := by
  obtain ⟨tried, left, result, after, ran, pools, split, closings, whole, journal⟩ :=
    pool.closeAll_run (scene.pools pool.name).inOrder { scene with
      pools := fun other => if other = pool.name then (scene.pools pool.name).forget
        else scene.pools other }
  have forgotten : after.pools pool.name = (scene.pools pool.name).forget := by
    rw [pools]
    exact if_pos rfl
  unfold close
  cases result with
  | error fault =>
    simp only [Act.bind_apply, Scene.pool_apply, Scene.setPool_apply, ran]
    exact ⟨tried, left, forgotten, split, closings, whole, by simpa [closingNotes] using journal⟩
  | ok nothing =>
    simp only [Act.bind_apply, Scene.pool_apply, Scene.setPool_apply, ran]
    refine ⟨tried, left, ?_⟩
    cases held : (scene.pools pool.name).inOrder.isEmpty with
    | true =>
      simp only [Bool.not_true, Bool.false_eq_true, ↓reduceIte, Act.pure_apply]
      exact ⟨forgotten, split, closings, whole, by simpa [closingNotes, held] using journal⟩
    | false =>
      simp only [Bool.not_false, ↓reduceIte, Scene.log_apply]
      exact ⟨forgotten, split, closings, whole,
        by simp [closingNotes, held, journal, closedRecord]⟩

/-- The scenes that calls to a pool lead to from one in which it was never called. Whatever happens
elsewhere in between leaves the pool alone. -/
inductive Reachable : Scene σ → Prop
  | unused {scene : Scene σ} (fresh : scene.pools pool.name = .empty) : Reachable scene
  | asked {scene : Scene σ} (target : Datum) (reached : Reachable scene) :
    Reachable (pool.clientAt target scene).2
  | closed {scene : Scene σ} (reached : Reachable scene) : Reachable (pool.close scene).2
  | elsewhere {scene other : Scene σ} (reached : Reachable scene)
      (same : other.pools pool.name = scene.pools pool.name) : Reachable other

variable {pool}

/-- Asking for a client keeps the registry tidy. -/
theorem Answers.tidy {target : Datum} {before after : Scene σ}
    {result : Except Fault (Option Client)} (answers : pool.Answers target before result after)
    (tidy : (before.pools pool.name).Tidy) : (after.pools pool.name).Tidy := by
  cases answers with
  | refused identity => exact tidy
  | unkeyable identity changes => exact tidy
  | kept identity isKey known => exact tidy
  | failed identity isKey unknown built state journal => exact state ▸ tidy.enter isKey
  | made identity isKey unknown built state journal =>
    exact state ▸ (tidy.enter isKey).keep isKey (tidy.mem_enter isKey) _

/-- Every pool that calls lead to is tidy. -/
theorem Reachable.tidy {scene : Scene σ} (reached : pool.Reachable scene) :
    (scene.pools pool.name).Tidy := by
  induction reached with
  | unused fresh => exact fresh ▸ PoolState.Tidy.empty
  | asked target reached ih => exact (pool.clientAt_answers target _).tidy ih
  | @closed scene reached ih =>
    obtain ⟨tried, left, closes⟩ := pool.close_closes scene
    exact closes.state ▸ ih.forget
  | elsewhere reached same ih => exact same ▸ ih

end ClientPool

end ObjectStorage
