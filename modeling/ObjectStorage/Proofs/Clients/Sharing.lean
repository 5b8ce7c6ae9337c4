import ObjectStorage.Proofs.Clients.Calls

/-!
# Sharing clients

Whoever asks a pool for clients gets the same one for targets with the same options, as long as the
pool is not closed in between, and never the same one otherwise. Every client that the service makes
is counted and told of once, a service that fails to make one leaves no trace of it, and no client
escapes a closing. All of this holds of any row of calls (`ClientPool.shares`), as long as the
options are ordinary and the service makes no client twice.
-/

namespace ObjectStorage

open Text Time

variable {σ : Type}

/-- A record tells of a new client. -/
def Record.tellsOfClient (record : Record) : Bool :=
  record.message.beginsWith "s3_client_created"

/-- How many new clients a journal tells of. -/
def Journal.clientsTold (journal : Journal) : Nat :=
  journal.records.countP Record.tellsOfClient

theorem Journal.clientsTold_append (first second : Journal) :
    clientsTold (first ++ second) = first.clientsTold + second.clientsTold := by
  unfold clientsTold
  rw [records_append, List.countP_append]

namespace ClientPool

/-- The record of a new client tells of a client. -/
theorem createdRecord_tells (options : ClientOptions) (kept : Nat) :
    (createdRecord options kept).tellsOfClient = true := by
  unfold Record.tellsOfClient Text.beginsWith createdRecord createdText
  simp only [Text.points_append, List.append_assoc]
  rw [List.isPrefixOf_iff_prefix]
  exact (show ("s3_client_created" : Text).points <+: ("s3_client_created endpoint=" : Text).points
    by decide).trans (List.prefix_append _ _)

/-- The notes on closing tell of no new client. -/
theorem closingNotes_quiet (clients : List Client) (result : Except Fault Unit) :
    (closingNotes clients result).tally .clientsCreated = 0 ∧
    (closingNotes clients result).clientsTold = 0 := by
  unfold closingNotes
  split
  · split
    · exact ⟨rfl, rfl⟩
    · exact ⟨rfl, rfl⟩
  · exact ⟨rfl, rfl⟩

/-- Neither do requests. -/
theorem requests_quiet {ι : Type} (row : List ι) (request : ι → Request) :
    Journal.tally (row.map fun item => .request (request item)) .clientsCreated = 0 ∧
    Journal.clientsTold (row.map fun item => .request (request item)) = 0 := by
  induction row with
  | nil => exact ⟨rfl, rfl⟩
  | cons item rest ih => exact ih

variable {pool : ClientPool σ} {start scene : Scene σ} {calls : List PoolCall}

/-- Every client made in a call is counted and told of. -/
theorem call_counts (call : PoolCall) (scene : Scene σ) :
    (pool.call call scene).2.journal.tally .clientsCreated =
      scene.journal.tally .clientsCreated + (pool.madeIn scene call).length ∧
    (pool.call call scene).2.journal.clientsTold =
      scene.journal.clientsTold + (pool.madeIn scene call).length := by
  cases call with
  | close =>
    obtain ⟨tried, left, closes⟩ := pool.close_closes scene
    have notes := closingNotes_quiet (scene.pools pool.name).inOrder (pool.close scene).1
    have requests := requests_quiet tried fun client => .close client.number
    rw [call_close, closes.journal]
    simp only [Journal.tally_append, Journal.clientsTold_append, notes, requests]
    exact ⟨rfl, rfl⟩
  | clientAt target =>
    unfold madeIn
    change (pool.clientAt target scene).2.journal.tally .clientsCreated = _ ∧
      (pool.clientAt target scene).2.journal.clientsTold = _
    rcases pool.clientAt_asks target scene with ⟨same, idle, _⟩ |
      ⟨options, _, _, _, making, ⟨fault, failed, _, journal⟩ |
        ⟨client, kept, answered, _, journal⟩⟩
    · rw [same, idle]
      exact ⟨rfl, rfl⟩
    · rw [journal, making, failed, Journal.tally_append, Journal.clientsTold_append]
      exact ⟨rfl, rfl⟩
    · have told : Journal.clientsTold [.request (pool.handover.request options),
          .count .clientsCreated, .record (createdRecord options kept)] = 1 :=
        List.countP_cons_of_pos (createdRecord_tells options kept)
      rw [journal, making, answered, Journal.tally_append, Journal.clientsTold_append, told]
      exact ⟨rfl, rfl⟩

/-- Every client made in some calls is counted and told of. -/
theorem after_counts (start : Scene σ) (calls : List PoolCall) :
    (pool.after start calls).journal.tally .clientsCreated =
      start.journal.tally .clientsCreated + (pool.made start calls).length ∧
    (pool.after start calls).journal.clientsTold =
      start.journal.clientsTold + (pool.made start calls).length := by
  induction calls generalizing start with
  | nil => exact ⟨rfl, rfl⟩
  | cons call rest ih =>
    obtain ⟨tally, told⟩ := ih (pool.call call start).2
    obtain ⟨tallyFirst, toldFirst⟩ := pool.call_counts call start
    rw [made, List.length_append]
    change (pool.after (pool.call call start).2 rest).journal.tally .clientsCreated = _ ∧
      (pool.after (pool.call call start).2 rest).journal.clientsTold = _
    omega

/-- Every client that the service is asked for in some calls is there or is not made, and none is
made twice. -/
structure MakesFresh (pool : ClientPool σ) (start : Scene σ) (calls : List PoolCall) : Prop where
  given : none ∉ pool.made start calls
  fresh : (pool.made start calls).Nodup

/-- Calls that make fresh clients do so up to any point. -/
theorem MakesFresh.of_prefix {earlier : List PoolCall} (makes : pool.MakesFresh start calls)
    (part : earlier <+: calls) : pool.MakesFresh start earlier := by
  obtain ⟨later, rfl⟩ := part
  have split : pool.made start (earlier ++ later) =
      pool.made start earlier ++ pool.made (pool.after start earlier) later := made_append ..
  refine ⟨fun inside => makes.given ?_, ?_⟩
  · rw [split]
    exact List.mem_append_left _ inside
  · exact (split ▸ makes.fresh).of_append_left

/-- Behind any of these calls, too, the service never makes nothing for a client. -/
theorem MakesFresh.given_behind {earlier later : List PoolCall}
    (makes : pool.MakesFresh start (earlier ++ later)) :
    none ∉ pool.made (pool.after start earlier) later := by
  intro inside
  apply makes.given
  rw [made_append]
  exact List.mem_append_right _ inside

/-- What a call for a client comes to when the service fails to make one: the fault, and neither a
client, nor a count, nor a record. The service was asked for a client with the target's options. -/
structure FailsToMake (pool : ClientPool σ) (target : Datum) (before : Scene σ) (fault : Fault) :
    Prop where
  asked : ∃ options : ClientOptions, pool.options.identityOf target = .ok options ∧
    (pool.clientAt target before).2.journal.requests =
      before.journal.requests ++ [pool.handover.request options]
  result : (pool.clientAt target before).1 = .error fault
  clients : ((pool.clientAt target before).2.pools pool.name).clients =
    (before.pools pool.name).clients
  counters : (pool.clientAt target before).2.journal.counters = before.journal.counters
  records : (pool.clientAt target before).2.journal.records = before.journal.records

/-- Where making a client for a target ends in a fault, the call for it comes to that fault and
leaves no trace. -/
theorem failsToMake {target : Datum} {fault : Fault}
    (failed : pool.making? scene (.clientAt target) = some (.error fault)) :
    pool.FailsToMake target scene fault := by
  rcases pool.clientAt_asks target scene with ⟨_, idle, _⟩ |
    ⟨options, identity, _, _, making, ⟨_, result, state, journal⟩ | ⟨_, _, answered, _⟩⟩
  · cases failed.symm.trans idle
  · rw [making, result] at failed
    cases failed
    refine ⟨⟨options, identity, ?_⟩, result, ?_, ?_, ?_⟩
    · rw [journal, Journal.requests_append]
      rfl
    · rw [state, PoolState.enter_clients]
    · rw [journal]
      simp [Journal.counters, Event.counter?]
    · rw [journal, Journal.records_append]
      exact List.append_nil _
  · rw [making, answered] at failed
    cases failed

/-- What holds of the clients of a pool in a row of calls. -/
structure Shares (pool : ClientPool σ) (start : Scene σ) (calls : List PoolCall) : Prop where
  /-- Two calls give the same client exactly if the pool is not closed between them and the options
  of their targets are the same. -/
  same_iff : ∀ (earlier between : List PoolCall) (target other : Datum)
      (client second : Option Client),
    earlier ++ [.clientAt target] ++ between ++ [.clientAt other] <+: calls →
    (pool.clientAt target (pool.after start earlier)).1 = .ok client →
    (pool.clientAt other (pool.after start (earlier ++ [.clientAt target] ++ between))).1 =
      .ok second →
    (client = second ↔ .close ∉ between ∧
      pool.options.identityOf target = pool.options.identityOf other)
  /-- A client that the service fails to make leaves no trace. -/
  failing : ∀ (earlier : List PoolCall) (target : Datum) (fault : Fault),
    earlier ++ [.clientAt target] <+: calls →
    pool.making? (pool.after start earlier) (.clientAt target) = some (.error fault) →
    pool.FailsToMake target (pool.after start earlier) fault
  /-- The next call for a client with the same options asks the service again. -/
  retried : ∀ (earlier between : List PoolCall) (target other : Datum) (fault : Fault),
    earlier ++ [.clientAt target] ++ between ++ [.clientAt other] <+: calls →
    pool.making? (pool.after start earlier) (.clientAt target) = some (.error fault) →
    pool.options.identityOf target = pool.options.identityOf other →
    (∀ third, .clientAt third ∈ between →
      pool.options.identityOf third ≠ pool.options.identityOf target) →
    (pool.making? (pool.after start (earlier ++ [.clientAt target] ++ between))
      (.clientAt other)).isSome = true
  /-- As many clients are counted as the service makes. -/
  counted : (pool.after start calls).journal.tally .clientsCreated =
    start.journal.tally .clientsCreated + (pool.made start calls).length
  /-- As many clients are told of as the service makes. -/
  told : (pool.after start calls).journal.clientsTold =
    start.journal.clientsTold + (pool.made start calls).length
  /-- No options ever have two clients. -/
  single : ∀ earlier : List PoolCall, earlier <+: calls →
    (((pool.after start earlier).pools pool.name).clients.map (·.1)).Nodup
  /-- Closing finds the options of every client. -/
  covered : ∀ earlier : List PoolCall, earlier <+: calls →
    ∀ entry ∈ ((pool.after start earlier).pools pool.name).clients,
      ∃ options ∈ ((pool.after start earlier).pools pool.name).order,
        entry.1.alike options = true
  /-- Closing leaves no client. -/
  emptied : ∀ earlier : List PoolCall, earlier <+: calls →
    ((pool.close (pool.after start earlier)).2.pools pool.name).clients = []

section

variable (fresh : start.pools pool.name = .empty)
include fresh

/-- A pool is sound after any calls that make fresh clients. -/
theorem sound_after (makes : pool.MakesFresh start calls) : pool.Sound (pool.after start calls) :=
  (Sound.unused fresh).after makes.given

/-- What a pool keeps after some calls was made in them. -/
theorem held_sublist_made (makes : pool.MakesFresh start calls) :
    (pool.held (pool.after start calls)).Sublist (pool.made start calls) := by
  have kept := (Sound.unused fresh).held_after makes.given
  have nothing : pool.held start = [] := by
    unfold held table
    rw [fresh]
    rfl
  rwa [nothing, List.nil_append] at kept

/-- What was made before a closing is not kept after it. -/
theorem not_held_after_close {earlier later : List PoolCall} {client : Option Client}
    (makes : pool.MakesFresh start (earlier ++ [.close] ++ later))
    (old : client ∈ pool.made start earlier) :
    client ∉ pool.held (pool.after start (earlier ++ [.close] ++ later)) := by
  have closedMakes := makes.of_prefix (List.prefix_append _ later)
  have sound := pool.sound_after fresh (closedMakes.of_prefix (List.prefix_append earlier _))
  have closed := pool.sound_after fresh closedMakes
  have emptied : pool.held (pool.after start (earlier ++ [.close])) = [] := by
    unfold held
    rw [after_close, sound.close_table]
    rfl
  have recent := closed.held_after makes.given_behind
  rw [emptied, List.nil_append, ← after_append] at recent
  have early : client ∈ pool.made start (earlier ++ [.close]) := by
    rw [made_append]
    exact List.mem_append_left _ old
  have once := makes.fresh
  rw [made_append] at once
  exact fun kept => List.disjoint_of_nodup_append once early (recent.subset kept)

/-- Two calls give the same client exactly if the pool is not closed between them and the options of
their targets are the same. -/
theorem clientAt_same_iff (ordinary : pool.options.Ordinary) {earlier between : List PoolCall}
    {target other : Datum} {client second : Option Client}
    (makes : pool.MakesFresh start
      (earlier ++ [.clientAt target] ++ between ++ [.clientAt other]))
    (given : (pool.clientAt target (pool.after start earlier)).1 = .ok client)
    (later : (pool.clientAt other
      (pool.after start (earlier ++ [.clientAt target] ++ between))).1 = .ok second) :
    client = second ↔ .close ∉ between ∧
      pool.options.identityOf target = pool.options.identityOf other := by
  have lateMakes := makes.of_prefix (List.prefix_append _ _)
  have firstMakes := lateMakes.of_prefix (List.prefix_append _ between)
  have before := pool.sound_after fresh (firstMakes.of_prefix (List.prefix_append _ _))
  have first := pool.sound_after fresh firstMakes
  have late := pool.sound_after fresh lateMakes
  obtain ⟨options, identity, known⟩ := before.lookup_given given
  obtain ⟨others, otherIdentity, found⟩ := late.lookup_given later
  rw [← after_clientAt] at known found
  -- What the table has for the first target, as long as the pool is not closed.
  have lasting (unclosed : .close ∉ between) :
      (pool.table (pool.after start (earlier ++ [.clientAt target] ++ between))).lookup
        options.key = some client := by
    rw [after_append]
    exact first.lookup_after lateMakes.given_behind unclosed known
  constructor
  · rintro rfl
    have unclosed : .close ∉ between := by
      intro closed
      obtain ⟨early, behind, rfl⟩ := List.append_of_mem closed
      have kept := (pool.held_sublist_made fresh firstMakes).subset
        (List.mem_map.mpr ⟨_, mem_of_lookup known, rfl⟩)
      have regroup : earlier ++ [.clientAt target] ++ (early ++ .close :: behind) ++
          [.clientAt other] = earlier ++ [.clientAt target] ++ early ++ [.close] ++
            (behind ++ [.clientAt other]) := by simp
      rw [regroup] at makes found
      apply not_held_after_close fresh makes _ (List.mem_map.mpr ⟨_, mem_of_lookup found, rfl⟩)
      rw [made_append]
      exact List.mem_append_left _ kept
    refine ⟨unclosed, ?_⟩
    have still := late.lookup_after makes.given_behind (by simp) (lasting unclosed)
    rw [← after_append] at still
    have once := (pool.held_sublist_made fresh makes).nodup makes.fresh
    have same := lookup_inj once still found
    rw [identity, otherIdentity, ((ordinary.identityOf identity).key_inj
      (ordinary.identityOf otherIdentity)).mp same]
  · rintro ⟨unclosed, same⟩
    rw [identity] at same
    have isKey := (ordinary.identityOf identity).isKey
    have again := late.clientAt_known same.symm isKey (lasting unclosed)
    exact Except.ok.inj (again.symm.trans later)

/-- The next call for a client with the options of one that was not made asks the service again. -/
theorem clientAt_retried (ordinary : pool.options.Ordinary) {earlier between : List PoolCall}
    {target other : Datum} {fault : Fault}
    (makes : pool.MakesFresh start (earlier ++ [.clientAt target] ++ between))
    (failed : pool.making? (pool.after start earlier) (.clientAt target) = some (.error fault))
    (same : pool.options.identityOf target = pool.options.identityOf other)
    (others : ∀ third, .clientAt third ∈ between →
      pool.options.identityOf third ≠ pool.options.identityOf target) :
    (pool.making? (pool.after start (earlier ++ [.clientAt target] ++ between))
      (.clientAt other)).isSome = true := by
  have firstMakes := makes.of_prefix (List.prefix_append _ between)
  have before := pool.sound_after fresh (firstMakes.of_prefix (List.prefix_append _ _))
  have first := pool.sound_after fresh firstMakes
  have late := pool.sound_after fresh makes
  have fails := pool.failsToMake failed
  rcases pool.clientAt_asks target (pool.after start earlier) with ⟨_, idle, _⟩ |
    ⟨options, identity, isKey, unknown, _⟩
  · cases failed.symm.trans idle
  have absent : (pool.table (pool.after start (earlier ++ [.clientAt target]))).lookup
      options.key = none := by
    rw [after_clientAt]
    unfold table PoolState.table
    rw [fails.clients]
    exact (before.client?_eq_none isKey).mp unknown
  have otherKeys : ∀ third, PoolCall.clientAt third ∈ between → ∀ own : ClientOptions,
      pool.options.identityOf third = .ok own → own.key ≠ options.key := by
    intro third inside own ownIdentity sameKey
    have equal := ((ordinary.identityOf ownIdentity).key_inj
      (ordinary.identityOf identity)).mp sameKey
    rw [equal, ← identity] at ownIdentity
    exact others third inside ownIdentity
  have still := first.absent_after makes.given_behind otherKeys absent
  rw [← after_append] at still
  exact late.asks_absent (same ▸ identity) isKey still

/-- In a row of calls to a pool that nobody has asked for a client, a client is shared exactly by
those who may share it. -/
theorem shares (ordinary : pool.options.Ordinary) (makes : pool.MakesFresh start calls) :
    pool.Shares start calls where
  same_iff _ _ _ _ _ _ part given later :=
    pool.clientAt_same_iff fresh ordinary (makes.of_prefix part) given later
  failing _ _ _ _ failed := pool.failsToMake failed
  retried _ _ _ _ _ part failed same others :=
    pool.clientAt_retried fresh ordinary
      (makes.of_prefix ((List.prefix_append _ _).trans part)) failed same others
  counted := (pool.after_counts start calls).1
  told := (pool.after_counts start calls).2
  single _ part := (pool.sound_after fresh (makes.of_prefix part)).tidy.options_nodup
  covered _ part _ inside :=
    (pool.sound_after fresh (makes.of_prefix part)).tidy.covered inside
  emptied earlier part := by
    obtain ⟨tried, left, closes⟩ := pool.close_closes (pool.after start earlier)
    rw [closes.state]
    exact PoolState.forget_clients (pool.sound_after fresh (makes.of_prefix part)).tidy

end

end ClientPool

/-- A service that makes no client when it is first asked for one, and a new one each time from then
on. It counts how often it was asked. -/
def hesitantService : Remote Nat where
  now _ := .beginning
  build _
    | 0 => (.error (.mishap (.foreign "RuntimeError" "boom")), 1)
    | asked + 1 => (.ok (some ⟨asked, true⟩), asked + 2)
  headBucket _ _ := pure ()
  getObject _ _ _ := pure (.body [])
  putObject _ _ _ _ := pure ()
  deleteObjects _ _ _ := pure (.table [])
  close _ := pure ()

/-- A pool of the hesitant service, with a region for one bucket. -/
def hesitantPool : ClientPool Nat where
  name := "pool"
  remote := hesitantService
  options := ⟨.empty, [("b", { ClientOptions.empty with region := .text "r" })], none⟩
  handover := .parameters

/-- The options of the hesitant pool are ordinary. -/
theorem hesitantPool_ordinary : hesitantPool.options.Ordinary where
  defaults := by constructor <;> trivial
  buckets entry inside := by
    rw [List.mem_singleton.mp inside]
    constructor <;> trivial

/-- Two buckets with the same options and one with others are called for, before and after the pool
is closed. -/
def hesitantCalls : List PoolCall :=
  [.clientAt (.text "a"), .clientAt (.text "c"), .clientAt (.text "b"), .clientAt (.text "a"),
    .close, .clientAt (.text "c")]

/-- Its calls have three clients made, and none of them twice. -/
theorem hesitantPool_makes : hesitantPool.made (.start 0) hesitantCalls =
    [some ⟨0, true⟩, some ⟨1, true⟩, some ⟨2, true⟩] := rfl

theorem hesitantPool_makesFresh : hesitantPool.MakesFresh (.start 0) hesitantCalls := by
  constructor <;> rw [hesitantPool_makes] <;> decide

theorem ClientPool.shares_hesitantPool :
    (Scene.start 0).pools hesitantPool.name = .empty ∧ hesitantPool.options.Ordinary ∧
    hesitantPool.MakesFresh (.start 0) hesitantCalls ∧
    hesitantPool.Shares (.start 0) hesitantCalls :=
  ⟨rfl, hesitantPool_ordinary, hesitantPool_makesFresh,
    shares rfl hesitantPool_ordinary hesitantPool_makesFresh⟩

end ObjectStorage
