import ObjectStorage.Proofs.Clients.Lifetimes
import ObjectStorage.Proofs.Clients.Sharing
import ObjectStorage.Proofs.Stacks.Sessions

/-!
# Stacks are one

A stack cannot be told from components that were wired by hand, and all clients that were ever made
through any of its components are those of one pool: when the stack is closed, each of them has been
closed once, and what is asked of the components later is asked with new clients
(`Stack.acts_as_one`).
-/

namespace ObjectStorage

open Text

variable {σ : Type}

/-- A façade does what its router does. -/
theorem Facade.toObjectStore_eq (facade : Facade σ) :
    facade.toObjectStore = facade.delegate.component.toObjectStore := by
  have deletes : facade.delete = facade.delegate.component.delete := by
    funext locations
    unfold Facade.delete Router.delete
    cases locations.items <;> rfl
  unfold toObjectStore Router.toObjectStore
  rw [deletes]

/-- The call that does an errand at a store in a way. -/
def Errand.by (front : Front) : Errand → ClientCall
  | .ping location => .ping front location
  | .read location => .read front location
  | .readWhole location => .readWhole front location
  | .openSink id location => .openSink front id location
  | .writeWhole location data => .writeWhole front location data
  | .delete locations => .delete front locations

/-- What stands in front of a store answers an errand as the store answers the errand by it. -/
theorem BucketStore.answer_by (store : BucketStore σ) (front : Front) (errand : Errand) :
    (front.toObjectStore store).answer errand = store.answer (errand.by front) := by
  cases errand <;> rfl

/-- The client that an answer hands out. -/
def ClientAnswer.client? : ClientAnswer → Option Client
  | .client handed => handed
  | _ => none

/-- The client that was handed out in a call. -/
def StackReport.client? (report : StackReport σ) : Option Client :=
  match report.result with
  | .ok (.told answer) => answer.client?
  | _ => none

/-- A call in which no old client is met with. -/
structure StackReport.Avoids (old : List Nat) (report : StackReport σ) : Prop where
  asked : ∀ request ∈ report.journal.requests, ∀ number, request.client? = some number →
    number ∉ old
  told : ∀ client, report.client? = some client → client.number ∉ old

/-- Stores hand out no clients. -/
theorem ObjectStore.answer_pairs_clientless (store : ObjectStore (Scene σ)) (errand : Errand) :
    (store.answer errand).Pairs Eq (fun answer _ => answer.client? = none) (store.answer errand) := by
  cases errand with
  | ping | writeWhole | delete => exact (Act.Pairs.refl _).bind_same fun _ => .pure rfl
  | read | readWhole => exact (Act.Pairs.refl _).map fun _ _ _ => rfl
  | openSink =>
    exact (Act.Pairs.refl _).bind_same fun _ => (Act.Pairs.refl _).bind_same fun _ => .pure rfl

theorem ObjectStore.answer_clientless {store : ObjectStore (Scene σ)} {errand : Errand}
    {desk : Desk σ} {answer : ClientAnswer} (told : (store.answer errand desk).1 = .ok answer) :
    answer.client? = none := by
  obtain ⟨ends, -⟩ := store.answer_pairs_clientless errand desk desk rfl
  rw [told] at ends
  cases ends with
  | ok clientless => exact clientless

theorem Desk.useSink_clientless {id : Text} {operation : SinkOp} {desk : Desk σ}
    {answer : ClientAnswer} (told : (useSink id operation desk).1 = .ok answer) :
    answer.client? = none := by
  unfold useSink at told
  cases found : desk.sinks.lookup id with
  | none =>
    rw [found] at told
    cases told
  | some held =>
    rw [found] at told
    dsimp only at told
    generalize operation.run held.commitBeside (held.sink, desk.scene) = ran at told
    obtain ⟨_ | _, _⟩ := ran
    · cases told
    · cases told
      rfl

namespace Assembly

variable {name : Text} {remote : Remote σ} {options : StoreOptions} {made : σ → List Nat}
  {closed old : List Nat}

/-- Every part that is a store is the one bucket store, seen in some way. -/
theorem piece_store? {part : Part} {store : ObjectStore (Scene σ)}
    (own : ((wired name remote options).piece part).store? = some store) :
    ∃ front : Front, store = front.toObjectStore (wired name remote options).store.component := by
  cases part with
  | clients => cases own
  | store =>
    cases own
    exact ⟨.straight, rfl⟩
  | router =>
    cases own
    exact ⟨.routed (wired name remote options).router.component.routes, rfl⟩
  | facade =>
    cases own
    refine ⟨.routed (wired name remote options).router.component.routes, ?_⟩
    rw [Facade.toObjectStore_eq]
    rfl

/-- The only pool among the pieces is that of the store. -/
theorem piece_clients? {part : Part} {pool : ClientPool σ}
    (own : ((wired name remote options).piece part).clients? = some pool) :
    pool = (wired name remote options).store.component.pool := by
  cases part with
  | clients =>
    cases own
    rfl
  | store | router | facade => cases own

/-- A bench at which only parts of the assembly were given, all sinks commit to its store, and the
books of its pool are balanced. -/
structure Keeps (name : Text) (remote : Remote σ) (options : StoreOptions) (made : σ → List Nat)
    (closed old : List Nat) (bench : Bench Unit σ) : Prop where
  held : ∀ piece ∈ bench.held, ∃ part, piece = (wired name remote options).piece part
  sinks : (wired name remote options).store.component.HasSinks bench.desk
  balanced : (wired name remote options).store.component.pool.Balanced made closed old
    bench.desk.scene

variable (registers : remote.Registers made) {bench : Bench Unit σ}
include registers

/-- A deed leaves the books balanced, and the client that it may answer is no old one. -/
theorem Keeps.deed (keeps : Keeps name remote options made closed old bench) (deed : Deed) :
    Keeps name remote options made closed old
        { bench with desk := (deed.answer bench.held bench.desk).2 } ∧
      ∀ answer client, (deed.answer bench.held bench.desk).1 = .ok answer →
        answer.client? = some client → client.number ∉ old := by
  have calls (call : ClientCall) : Keeps name remote options made closed old
      { bench with desk :=
        ((wired name remote options).store.component.answer call bench.desk).2 } :=
    ⟨keeps.held, (BucketStore.answer_hasSinks _ call).keeps keeps.sinks,
      BucketStore.answer_balanced registers keeps.sinks keeps.balanced call⟩
  cases deed with
  | ask holding errand =>
    rcases Deed.answer_ask bench.held holding errand with ⟨store, found, answers⟩ | fails
    · obtain ⟨piece, listed, own⟩ := Option.bind_eq_some_iff.mp found
      obtain ⟨part, rfl⟩ := keeps.held piece (List.mem_of_getElem? listed)
      obtain ⟨front, rfl⟩ := piece_store? own
      rw [answers]
      refine ⟨?_, fun answer client told handed => ?_⟩
      · rw [BucketStore.answer_by]
        exact calls (errand.by front)
      · rw [ObjectStore.answer_clientless told] at handed
        cases handed
    · rw [fails]
      exact ⟨keeps, nofun⟩
  | askClients holding call =>
    rcases Deed.answer_askClients bench.held holding call with ⟨pool, found, answers⟩ | fails
    · obtain ⟨piece, listed, own⟩ := Option.bind_eq_some_iff.mp found
      obtain ⟨part, rfl⟩ := keeps.held piece (List.mem_of_getElem? listed)
      obtain rfl := piece_clients? own
      obtain ⟨after, apart⟩ := keeps.balanced.call registers call
      rw [answers]
      unfold Desk.onScene
      rw [Act.map_onPart_apply]
      refine ⟨⟨keeps.held, keeps.sinks, after⟩, fun answer client told handed => ?_⟩
      dsimp only at told
      cases ran : ((wired name remote options).store.component.pool.call call
        bench.desk.scene).1 with
      | error fault =>
        rw [ran] at told
        cases told
      | ok client =>
        rw [ran] at told
        cases told
        exact apart _ (ran.trans (congrArg Except.ok handed))
    · rw [fails]
      exact ⟨keeps, nofun⟩
  | useSink id operation =>
    refine ⟨calls (.useSink id operation), fun answer client told handed => ?_⟩
    rw [Desk.useSink_clientless told] at handed
    cases handed

/-- So does every call, and no old client is met with in it. -/
theorem Keeps.report (keeps : Keeps name remote options made closed old bench.cleared)
    (call : StackCall) :
    Keeps name remote options made closed old
        ((wired name remote options).provider.report call bench).2 ∧
      ((wired name remote options).provider.report call bench).1.Avoids old := by
  unfold Provider.report
  cases call with
  | give part =>
    refine ⟨⟨fun piece inside => ?_, keeps.sinks, keeps.balanced⟩, keeps.balanced.askers, nofun⟩
    rcases List.mem_append.mp inside with before | new
    · exact keeps.held piece before
    · exact ⟨part, List.mem_singleton.mp new⟩
  | deed deed =>
    obtain ⟨after, apart⟩ := keeps.deed registers deed
    rw [Provider.answer_deed]
    refine ⟨after, after.balanced.askers, fun client handed => ?_⟩
    unfold StackReport.client? at handed
    dsimp only at handed
    cases told : (deed.answer bench.cleared.held bench.cleared.desk).1 with
    | error fault =>
      rw [told] at handed
      cases handed
    | ok answer =>
      rw [told] at handed
      exact apart answer client told handed
  | close =>
    obtain ⟨after, whole, -⟩ := keeps.balanced.close registers
    have closes : ((wired name remote options).provider.close () bench.cleared.desk.scene).1 =
        .ok () := whole
    rw [Provider.answer_close, closes]
    exact ⟨⟨keeps.held, keeps.sinks, after⟩, after.askers, nofun⟩

/-- After any calls the books are balanced, with what was closed in them. -/
theorem Keeps.session (keeps : Keeps name remote options made closed old bench.cleared)
    (calls : List StackCall) :
    Keeps name remote options made
        (closed ++ ((wired name remote options).provider.session calls bench).1.flatMap
          (·.journal.closings)) old
        ((wired name remote options).provider.session calls bench).2.cleared ∧
      ∀ report ∈ ((wired name remote options).provider.session calls bench).1,
        report.Avoids old := by
  induction calls generalizing bench closed with
  | nil =>
    refine ⟨?_, nofun⟩
    rw [show ((wired name remote options).provider.session [] bench).1 = [] from rfl,
      List.flatMap_nil, List.append_nil]
    exact keeps
  | cons call rest ih =>
    obtain ⟨after, first⟩ := keeps.report registers call
    obtain ⟨last, others⟩ := ih ⟨after.held, after.sinks, after.balanced.cleared⟩
    refine ⟨?_, List.forall_mem_cons.mpr ⟨first, others⟩⟩
    rw [List.append_assoc] at last
    exact last

/-- When the pool is closed, all clients have been closed and may be called old. -/
theorem Keeps.close (keeps : Keeps name remote options made closed old bench.cleared) :
    let ended := (wired name remote options).provider.report .close bench
    (closed ++ ended.1.journal.closings).Perm (made ended.2.desk.scene.remote) ∧
      Keeps name remote options made (closed ++ ended.1.journal.closings)
        (made ended.2.desk.scene.remote) ended.2.cleared := by
  obtain ⟨after, -, emptied⟩ := keeps.balanced.close registers
  unfold Provider.report
  rw [Provider.answer_close]
  exact ⟨after.all_closed emptied, keeps.held, keeps.sinks, after.renewed emptied⟩

variable (name options) in
/-- A row of calls that ends with closing has closed all clients that were made, each once, and none
of them is met with later. -/
theorem session_close {start : σ} (nothing : made start = []) (earlier : List StackCall) :
    let ended := (wired name remote options).provider.session (earlier ++ [.close])
      (.start () start)
    (ended.1.flatMap (·.journal.closings)).Perm (made ended.2.desk.scene.remote) ∧
      (made ended.2.desk.scene.remote).Nodup ∧
      ∀ later, ∀ report ∈ ((wired name remote options).provider.session later ended.2).1,
        report.Avoids (made ended.2.desk.scene.remote) := by
  have first : Keeps name remote options made [] [] (Bench.start () start).cleared :=
    ⟨nofun, nofun, .start nothing _⟩
  obtain ⟨between, -⟩ := first.session registers earlier
  obtain ⟨all, last⟩ := between.close registers
  rw [Provider.session_append]
  simp only [List.flatMap_append]
  refine ⟨?_, last.balanced.distinct, fun later => (last.session registers later).2⟩
  have one : ((wired name remote options).provider.session [.close]
      ((wired name remote options).provider.session earlier (.start () start)).2).1.flatMap
        (·.journal.closings) = _ := List.flatMap_singleton ..
  rw [one]
  exact all

end Assembly

namespace Stack

/-- A stack is one pool with a store over it and a router before the store, whatever is called and
in whatever order. -/
structure ActsAsOne (name : Text) (remote : Remote σ) (settings : Settings)
    (options : StoreOptions) : Prop where
  /-- What is seen of calls is what is seen of them when the components were wired by hand over the
  options. The scene and the sinks that the calls leave are the same, too. -/
  wired : ∀ start calls,
    let own := provider.session calls (.start (.ofSettings name remote settings) start)
    let other := (Assembly.wired name remote options).provider.session calls (.start () start)
    own.1 = other.1 ∧ own.2.desk = other.2.desk
  /-- A part is always the same component, and nothing is done to hand it out. -/
  same : ∀ start earlier part,
    let before := provider.session earlier (.start (.ofSettings name remote settings) start)
    (provider.report (.give part) before.2).1 =
      ⟨.ok (.piece ((Assembly.wired name remote options).piece part)), []⟩
  /-- If clients let themselves be closed, those that were ever made have been closed when the stack
  is closed, each of them once. -/
  closes : ∀ made, remote.Registers made → ∀ start, made start = [] → ∀ earlier,
    let ended := provider.session (earlier ++ [.close])
      (.start (.ofSettings name remote settings) start)
    (ended.1.flatMap (·.journal.closings)).Perm (made ended.2.desk.scene.remote) ∧
      (made ended.2.desk.scene.remote).Nodup
  /-- From then on no request is made with one of them, and none is handed out. -/
  fresh : ∀ made, remote.Registers made → ∀ start, made start = [] → ∀ earlier later,
    let ended := provider.session (earlier ++ [.close])
      (.start (.ofSettings name remote settings) start)
    ∀ report ∈ (provider.session later ended.2).1,
      report.Avoids (made ended.2.desk.scene.remote)

/-- Every stack whose settings give options is one with the components wired over these. -/
theorem acts_as_one (name : Text) (remote : Remote σ) {settings : Settings} {options : StoreOptions}
    (given : settings.storeOptions = .ok options) : ActsAsOne name remote settings options := by
  have started (start : σ) : Follows name remote settings (.wired name remote options)
      (.start (.ofSettings name remote settings) start) (.start () start) :=
    ⟨rfl, rfl, 0, (stage_zero ..).symm, fun _ => ⟨rfl, rfl, rfl⟩⟩
  constructor
  case wired =>
    intro start calls
    obtain ⟨reports, last⟩ := session_follows given calls (started start)
    exact ⟨reports, last.desk⟩
  case same =>
    intro start earlier part
    obtain ⟨_, between⟩ := session_follows given earlier (started start)
    exact (report_follows given between (.give part)).1
  case closes =>
    intro made registers start nothing earlier
    obtain ⟨reports, last⟩ := session_follows given (earlier ++ [.close]) (started start)
    obtain ⟨all, distinct, _⟩ := Assembly.session_close name options registers nothing earlier
    dsimp only
    rw [reports, last.desk]
    exact ⟨all, distinct⟩
  case fresh =>
    intro made registers start nothing earlier later
    obtain ⟨_, between⟩ := session_follows given (earlier ++ [.close]) (started start)
    obtain ⟨_, _, apart⟩ := Assembly.session_close name options registers nothing earlier
    dsimp only
    rw [between.desk, (session_follows given later between).1]
    exact apart later

end Stack

/-- Settings that give a region for one bucket. -/
def regionalSettings : Settings where
  endpointUrl := .null
  region := .null
  accessKeyId := .null
  secretAccessKey := .null
  sessionToken := .null
  pathStyle := .bool false
  retryAfter := .null
  bucketOptions := [("b", [("region", .text "r")])]
  readyLocations := .list []
  enableMetrics := .bool true
  logLevel := "INFO"

/-- What the regional settings give. -/
def regionalOptions : StoreOptions where
  defaults := { ClientOptions.empty with pathStyle := .bool false }
  buckets := [("b", { ClientOptions.empty with region := .text "r" })]
  retryAfter := none

/-- The hesitant service counts the clients that it was asked for, and made one each time but the
first. -/
theorem hesitantService_registers :
    hesitantService.Registers fun asked => List.range (asked - 1) where
  built options asked client made := by
    cases asked with
    | zero => cases made
    | succ asked =>
      cases made
      exact ⟨rfl, List.not_mem_range_self, List.range_succ⟩
  unbuilt options asked fails := by
    cases asked with
    | zero => rfl
    | succ asked => exact (fails _ rfl).elim
  head _ _ _ := rfl
  get _ _ _ _ := rfl
  put _ _ _ _ _ := rfl
  delete _ _ _ _ := rfl
  closed _ _ := ⟨rfl, rfl⟩

/-- The pool is asked for clients, straight and through the façade. Once, the service fails. -/
def regionalCalls : List StackCall :=
  [.give .facade, .give .clients, .deed (.ask 0 (.ping (.text "s3://b"))),
    .deed (.ask 0 (.ping (.text "s3a://b"))), .deed (.askClients 1 (.clientAt (.text "a")))]

/-- The clients of two buckets were made, and both were closed with the stack. -/
theorem Stack.regionalStack_acts_as_one :
    regionalSettings.storeOptions = .ok regionalOptions ∧
    hesitantService.Registers (fun asked => List.range (asked - 1)) ∧
    ActsAsOne "pool" hesitantService regionalSettings regionalOptions ∧
    ((provider.session (regionalCalls ++ [.close])
      (.start (.ofSettings "pool" hesitantService regionalSettings) 0)).1.flatMap
        (·.journal.closings)).Perm [0, 1] :=
  have acts : ActsAsOne "pool" hesitantService regionalSettings regionalOptions :=
    acts_as_one "pool" hesitantService rfl
  ⟨rfl, hesitantService_registers, acts,
    (acts.closes _ hesitantService_registers 0 rfl regionalCalls).1⟩

end ObjectStorage
