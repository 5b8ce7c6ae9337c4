import ObjectStorage.Proofs.Clients.Registry

/-!
# Calls to a pool

A pool is asked for the clients of targets and closed, in any order. What a call does to the pool is
told by the table of its clients: a call for a client adds what the service made in it, if anything
(`ClientPool.Sound.clientAt_table`), and closing empties the table. So the clients in the table are
some of those made (`ClientPool.Sound.held_after`), and what the table has for a key stays until the
pool is closed (`ClientPool.Sound.lookup_after`).
-/

namespace ObjectStorage

open Text Time

variable {σ : Type}

/-- A call to a pool: for the client of a target, or to close it. -/
inductive PoolCall
  | clientAt (target : Datum)
  | close

namespace ClientPool

/-- Makes a call. Closing gives no client. -/
def call (pool : ClientPool σ) : PoolCall → Act (Scene σ) (Option Client)
  | .clientAt target => pool.clientAt target
  | .close => do
    pool.close
    return none

/-- The scene after some calls, whatever came of each. -/
def after (pool : ClientPool σ) (scene : Scene σ) (calls : List PoolCall) : Scene σ :=
  calls.foldl (fun scene call => (pool.call call scene).2) scene

/-- What a call for a client adds to the journal. -/
def added (pool : ClientPool σ) (scene : Scene σ) (target : Datum) : Journal :=
  (pool.clientAt target scene).2.journal.drop scene.journal.length

/-- What the service answers when it is asked for a client in a call, which a request tells. -/
def making? (pool : ClientPool σ) (scene : Scene σ) : PoolCall →
    Option (Except Fault (Option Client))
  | .close => none
  | .clientAt target =>
    match pool.options.identityOf target with
    | .error _ => none
    | .ok options =>
      if (pool.added scene target).requests.isEmpty then none
      else some (pool.remote.build options scene.remote).1

/-- What the service makes in a call: one client or none. -/
def madeIn (pool : ClientPool σ) (scene : Scene σ) (call : PoolCall) : List (Option Client) :=
  ((pool.making? scene call).bind Except.toOption).toList

/-- What the service makes in some calls, in order. -/
def made (pool : ClientPool σ) (scene : Scene σ) : List PoolCall → List (Option Client)
  | [] => []
  | call :: rest => pool.madeIn scene call ++ pool.made (pool.call call scene).2 rest

/-- The clients of a pool by what their options stand for. -/
def table (pool : ClientPool σ) (scene : Scene σ) : List (KeyValue × Option Client) :=
  (scene.pools pool.name).table

/-- What the pool keeps for its keys. -/
def held (pool : ClientPool σ) (scene : Scene σ) : List (Option Client) :=
  (pool.table scene).map (·.2)

/-- A pool whose registry is tidy and has a client for each of its keys. -/
structure Sound (pool : ClientPool σ) (scene : Scene σ) : Prop where
  tidy : (scene.pools pool.name).Tidy
  filled : none ∉ pool.held scene

variable {pool : ClientPool σ} {scene : Scene σ}

theorem after_append (first second : List PoolCall) :
    pool.after scene (first ++ second) = pool.after (pool.after scene first) second :=
  List.foldl_append

theorem made_append (first second : List PoolCall) :
    pool.made scene (first ++ second) =
      pool.made scene first ++ pool.made (pool.after scene first) second := by
  induction first generalizing scene with
  | nil => rfl
  | cons call rest ih =>
    rw [List.cons_append, made, ih, made, List.append_assoc]
    rfl

theorem call_close (scene : Scene σ) : (pool.call .close scene).2 = (pool.close scene).2 := by
  change ((pool.close >>= fun _ => pure none : Act (Scene σ) (Option Client)) scene).2 = _
  rw [Act.bind_apply]
  rcases pool.close scene with ⟨_ | _, _⟩ <;> rfl

theorem after_clientAt (calls : List PoolCall) (target : Datum) :
    pool.after scene (calls ++ [.clientAt target]) =
      (pool.clientAt target (pool.after scene calls)).2 := by
  rw [after_append]
  rfl

theorem after_close (calls : List PoolCall) :
    pool.after scene (calls ++ [.close]) = (pool.close (pool.after scene calls)).2 := by
  rw [after_append]
  exact call_close _

/-- A call for a client changes nothing, which it does where there is one, or asks the service for a
client that there is none for. Then the service's answer is that of the call. -/
theorem clientAt_asks (target : Datum) (scene : Scene σ) :
    ((pool.clientAt target scene).2 = scene ∧ pool.making? scene (.clientAt target) = none ∧
      ∀ options : ClientOptions, pool.options.identityOf target = .ok options → options.IsKey →
        (scene.pools pool.name).client? options ≠ none) ∨
    ∃ options : ClientOptions, pool.options.identityOf target = .ok options ∧ options.IsKey ∧
      (scene.pools pool.name).client? options = none ∧
      pool.making? scene (.clientAt target) = some (pool.clientAt target scene).1 ∧
      ((∃ fault, (pool.clientAt target scene).1 = .error fault ∧
        (pool.clientAt target scene).2.pools pool.name = (scene.pools pool.name).enter options ∧
        (pool.clientAt target scene).2.journal =
          scene.journal ++ [.request (pool.handover.request options)]) ∨
      ∃ client kept, (pool.clientAt target scene).1 = .ok client ∧
        (pool.clientAt target scene).2.pools pool.name =
          ((scene.pools pool.name).enter options).keep options client ∧
        (pool.clientAt target scene).2.journal = scene.journal ++
          [.request (pool.handover.request options), .count .clientsCreated,
            .record (createdRecord options kept)]) := by
  have answers := pool.clientAt_answers target scene
  have idle (same : (pool.clientAt target scene).2 = scene) :
      pool.making? scene (.clientAt target) = none := by
    have nothing : pool.added scene target = [] := by
      unfold added
      rw [same, List.drop_length]
    unfold making?
    dsimp only
    rw [nothing]
    split <;> rfl
  have asked {options : ClientOptions} {rest : Journal}
      (identity : pool.options.identityOf target = .ok options)
      (journal : (pool.clientAt target scene).2.journal =
        scene.journal ++ .request (pool.handover.request options) :: rest) :
      pool.making? scene (.clientAt target) = some (pool.remote.build options scene.remote).1 := by
    have news : pool.added scene target = .request (pool.handover.request options) :: rest := by
      unfold added
      rw [journal, List.drop_left]
    unfold making?
    dsimp only
    rw [identity, news]
    rfl
  generalize (pool.clientAt target scene).1 = result at answers ⊢
  generalize (pool.clientAt target scene).2 = after at answers idle asked ⊢
  cases answers with
  | refused identity =>
    refine .inl ⟨rfl, idle rfl, fun options resolved => ?_⟩
    cases identity.symm.trans resolved
  | unkeyable identity changes =>
    refine .inl ⟨rfl, idle rfl, fun options resolved isKey => ?_⟩
    obtain rfl := Except.ok.inj (identity.symm.trans resolved)
    cases changes.symm.trans isKey
  | kept identity isKey known =>
    refine .inl ⟨rfl, idle rfl, fun options resolved _ absent => ?_⟩
    obtain rfl := Except.ok.inj (identity.symm.trans resolved)
    cases known.symm.trans absent
  | failed identity isKey unknown built state journal =>
    refine .inr ⟨_, identity, isKey, unknown, ?_, .inl ⟨_, rfl, state, journal⟩⟩
    rw [asked identity journal, built]
  | made identity isKey unknown built state journal =>
    refine .inr ⟨_, identity, isKey, unknown, ?_, .inr ⟨_, _, rfl, state, journal⟩⟩
    rw [asked identity journal, built]

theorem madeIn_idle {call : PoolCall} (idle : pool.making? scene call = none) :
    pool.madeIn scene call = [] := by
  unfold madeIn
  rw [idle]
  rfl

/-- Two keys for which the pool keeps the same are one, if it keeps nothing twice. -/
theorem lookup_inj (once : (pool.held scene).Nodup) {key other : KeyValue} {client : Option Client}
    (own : (pool.table scene).lookup key = some client)
    (others : (pool.table scene).lookup other = some client) : key = other := by
  have same := List.inj_on_of_nodup_map once (mem_of_lookup own) (mem_of_lookup others) rfl
  exact congrArg Prod.fst same

namespace Sound

theorem unused (fresh : scene.pools pool.name = .empty) : pool.Sound scene where
  tidy := fresh ▸ PoolState.Tidy.empty
  filled := by
    unfold held table
    rw [fresh]
    exact List.not_mem_nil

/-- In a sound pool the client for options is the one in the table. -/
theorem client?_eq_some (sound : pool.Sound scene) {options : ClientOptions}
    (isKey : options.IsKey) {client : Client} :
    (scene.pools pool.name).client? options = some client ↔
      (pool.table scene).lookup options.key = some (some client) := by
  rw [PoolState.client?_eq sound.tidy.keys isKey]
  exact Option.join_eq_some_iff

theorem client?_eq_none (sound : pool.Sound scene) {options : ClientOptions}
    (isKey : options.IsKey) :
    (scene.pools pool.name).client? options = none ↔
      (pool.table scene).lookup options.key = none := by
  rw [PoolState.client?_eq sound.tidy.keys isKey, Option.join_eq_none_iff]
  refine ⟨?_, .inl⟩
  rintro (absent | hollow)
  · exact absent
  · have inside : none ∈ pool.held scene :=
      List.mem_map.mpr ⟨_, mem_of_lookup hollow, rfl⟩
    exact (sound.filled inside).elim

/-- A call for a client adds to the table what the service made in it, for the key of its target. -/
theorem clientAt_table (sound : pool.Sound scene) (target : Datum) :
    ∃ entries : List (KeyValue × Option Client),
      pool.table (pool.clientAt target scene).2 = pool.table scene ++ entries ∧
      entries.map (·.2) = pool.madeIn scene (.clientAt target) ∧
      ∀ entry ∈ entries, ∃ options : ClientOptions,
        pool.options.identityOf target = .ok options ∧ entry.1 = options.key := by
  rcases pool.clientAt_asks target scene with ⟨same, idle, _⟩ |
    ⟨options, identity, isKey, unknown, making, ⟨fault, failed, state, _⟩ |
      ⟨client, _, answered, state, _⟩⟩
  · refine ⟨[], ?_, (madeIn_idle idle).symm, nofun⟩
    rw [same, List.append_nil]
  · refine ⟨[], ?_, ?_, nofun⟩
    · unfold table PoolState.table
      rw [state, PoolState.enter_clients, List.append_nil]
    · unfold madeIn
      rw [making, failed]
      rfl
  · refine ⟨[(options.key, client)], ?_, ?_, ?_⟩
    · have entered := (sound.tidy.enter isKey).keys
      have absent := (sound.client?_eq_none isKey).mp unknown
      have sameTable : ((scene.pools pool.name).enter options).table =
          (scene.pools pool.name).table := by
        unfold PoolState.table
        rw [PoolState.enter_clients]
      unfold table at absent ⊢
      rw [state, PoolState.keep_table entered isKey, sameTable, putEntry_absent absent]
    · unfold madeIn
      rw [making, answered]
      rfl
    · intro entry inside
      rw [List.mem_singleton.mp inside]
      exact ⟨options, identity, rfl⟩

/-- Closing a sound pool empties its table. -/
theorem close_table (sound : pool.Sound scene) : pool.table (pool.close scene).2 = [] := by
  obtain ⟨tried, left, closes⟩ := pool.close_closes scene
  unfold table PoolState.table
  rw [closes.state, PoolState.forget_clients sound.tidy]
  rfl

/-- A call leaves a pool sound, unless the service makes nothing in it. -/
theorem call (sound : pool.Sound scene) {call : PoolCall} (given : none ∉ pool.madeIn scene call) :
    pool.Sound (pool.call call scene).2 := by
  cases call with
  | clientAt target =>
    refine ⟨(pool.clientAt_answers target scene).tidy sound.tidy, ?_⟩
    obtain ⟨entries, table, news, _⟩ := sound.clientAt_table target
    change none ∉ pool.held (pool.clientAt target scene).2
    unfold held
    rw [table, List.map_append, news]
    exact fun inside => (List.mem_append.mp inside).elim sound.filled given
  | close =>
    rw [call_close]
    obtain ⟨tried, left, closes⟩ := pool.close_closes scene
    refine ⟨closes.state ▸ sound.tidy.forget, ?_⟩
    unfold held
    rw [sound.close_table]
    exact List.not_mem_nil

/-- What a pool keeps after a call was there before or was made in it. -/
theorem held_call (sound : pool.Sound scene) (call : PoolCall) :
    (pool.held (pool.call call scene).2).Sublist (pool.held scene ++ pool.madeIn scene call) := by
  cases call with
  | clientAt target =>
    obtain ⟨entries, table, news, _⟩ := sound.clientAt_table target
    change (pool.held (pool.clientAt target scene).2).Sublist _
    unfold held
    rw [table, List.map_append, news]
  | close =>
    unfold held
    rw [call_close, sound.close_table]
    exact List.nil_sublist _

variable {calls : List PoolCall}

theorem after (sound : pool.Sound scene) (given : none ∉ pool.made scene calls) :
    pool.Sound (pool.after scene calls) := by
  induction calls generalizing scene with
  | nil => exact sound
  | cons call rest ih =>
    rw [made, List.mem_append, not_or] at given
    exact ih (sound.call given.1) given.2

/-- What a pool keeps after some calls was there before them or was made in them. -/
theorem held_after (sound : pool.Sound scene) (given : none ∉ pool.made scene calls) :
    (pool.held (pool.after scene calls)).Sublist (pool.held scene ++ pool.made scene calls) := by
  induction calls generalizing scene with
  | nil => exact List.sublist_append_left _ _
  | cons call rest ih =>
    rw [made, List.mem_append, not_or] at given
    rw [made, ← List.append_assoc]
    exact (ih (sound.call given.1) given.2).trans ((sound.held_call call).append_right _)

/-- What the table has for a key stays there until the pool is closed. -/
theorem lookup_after (sound : pool.Sound scene) (given : none ∉ pool.made scene calls)
    (unclosed : .close ∉ calls) {key : KeyValue} {client : Option Client}
    (known : (pool.table scene).lookup key = some client) :
    (pool.table (pool.after scene calls)).lookup key = some client := by
  induction calls generalizing scene with
  | nil => exact known
  | cons call rest ih =>
    rw [made, List.mem_append, not_or] at given
    rw [List.mem_cons, not_or] at unclosed
    apply ih (sound.call given.1) given.2 unclosed.2
    cases call with
    | close => exact (unclosed.1 rfl).elim
    | clientAt target =>
      obtain ⟨entries, table, _⟩ := sound.clientAt_table target
      change (pool.table (pool.clientAt target scene).2).lookup key = some client
      rw [table, List.lookup_append, known]
      rfl

/-- A key without a client stays so until a client is asked for with it. -/
theorem absent_after (sound : pool.Sound scene) (given : none ∉ pool.made scene calls)
    {key : KeyValue} (others : ∀ target, PoolCall.clientAt target ∈ calls →
      ∀ options : ClientOptions, pool.options.identityOf target = .ok options → options.key ≠ key)
    (absent : (pool.table scene).lookup key = none) :
    (pool.table (pool.after scene calls)).lookup key = none := by
  induction calls generalizing scene with
  | nil => exact absent
  | cons call rest ih =>
    rw [made, List.mem_append, not_or] at given
    refine ih (sound.call given.1) given.2
      (fun target inside => others target (List.mem_cons_of_mem _ inside)) ?_
    cases call with
    | close =>
      change (pool.table (pool.call .close scene).2).lookup key = none
      rw [call_close, sound.close_table]
      rfl
    | clientAt target =>
      obtain ⟨entries, table, _, keys⟩ := sound.clientAt_table target
      change (pool.table (pool.clientAt target scene).2).lookup key = none
      rw [table, List.lookup_append, absent, Option.none_or, List.lookup_eq_none_iff]
      intro entry inside
      obtain ⟨options, identity, own⟩ := keys entry inside
      rw [own]
      exact bne_iff_ne.mpr fun same => others target List.mem_cons_self options identity same.symm

/-- A client that a call gives is in the table then, for the key of its target. -/
theorem lookup_given (sound : pool.Sound scene) {target : Datum} {client : Option Client}
    (given : (pool.clientAt target scene).1 = .ok client) : ∃ options : ClientOptions,
      pool.options.identityOf target = .ok options ∧
      (pool.table (pool.clientAt target scene).2).lookup options.key = some client := by
  have answers := pool.clientAt_answers target scene
  unfold table
  generalize (pool.clientAt target scene).2 = after at answers ⊢
  rw [given] at answers
  cases answers with
  | kept identity isKey known => exact ⟨_, identity, (sound.client?_eq_some isKey).mp known⟩
  | made identity isKey unknown built state journal =>
    refine ⟨_, identity, ?_⟩
    rw [state, PoolState.keep_table (sound.tidy.enter isKey).keys isKey, lookup_putEntry,
      if_pos rfl]

/-- A client that the table has for the key of a target is what a call for the target gives. -/
theorem clientAt_known (sound : pool.Sound scene) {target : Datum} {options : ClientOptions}
    (identity : pool.options.identityOf target = .ok options) (isKey : options.IsKey)
    {client : Option Client} (known : (pool.table scene).lookup options.key = some client) :
    (pool.clientAt target scene).1 = .ok client := by
  have present : client ≠ none := by
    rintro rfl
    exact sound.filled (List.mem_map.mpr ⟨_, mem_of_lookup known, rfl⟩)
  obtain ⟨client, rfl⟩ := Option.ne_none_iff_exists'.mp present
  have found := (sound.client?_eq_some isKey).mpr known
  have answers := pool.clientAt_answers target scene
  generalize (pool.clientAt target scene).1 = result at answers ⊢
  generalize (pool.clientAt target scene).2 = after at answers
  cases answers with
  | refused refusal => cases identity.symm.trans refusal
  | unkeyable same changes =>
    obtain rfl := Except.ok.inj (identity.symm.trans same)
    cases changes.symm.trans isKey
  | kept same _ other =>
    obtain rfl := Except.ok.inj (identity.symm.trans same)
    rw [Option.some.inj (found.symm.trans other)]
  | failed same _ unknown | made same _ unknown =>
    obtain rfl := Except.ok.inj (identity.symm.trans same)
    cases found.symm.trans unknown

/-- A call asks the service for the client of a target whose key has none. -/
theorem asks_absent (sound : pool.Sound scene) {target : Datum} {options : ClientOptions}
    (identity : pool.options.identityOf target = .ok options) (isKey : options.IsKey)
    (absent : (pool.table scene).lookup options.key = none) :
    (pool.making? scene (.clientAt target)).isSome = true := by
  rcases pool.clientAt_asks target scene with ⟨_, _, known⟩ | ⟨_, _, _, _, making, _⟩
  · exact (known options identity isKey ((sound.client?_eq_none isKey).mpr absent)).elim
  · rw [making]
    rfl

end Sound

end ClientPool

end ObjectStorage
