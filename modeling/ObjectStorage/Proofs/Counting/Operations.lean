import ObjectStorage.Proofs.Boundary.Refusals
import ObjectStorage.Proofs.Clients.Registry
import ObjectStorage.Proofs.Counting.Commits
import ObjectStorage.Proofs.Desks.Sinks
import ObjectStorage.Proofs.Routing.Merging

/-!
# Counted operations

In every session, a store accounts for what is asked of it (`BucketStore.accounts`): each probe,
read and delete, and each commit of a sink, is counted once by how it ends if it returns or fails in
the store's own terms, and not at all if it fails otherwise. Nothing else is counted.
-/

namespace ObjectStorage

open Text

variable {σ α : Type}

/-- The operation that an event counts, and how it ended. -/
def Event.operation? : Event → Option (Operation × Outcome)
  | .count (.operations operation outcome) => some (operation, outcome)
  | _ => none

/-- The operations that a journal counts, each as often as it counts it. -/
def Journal.operations (journal : Journal) : List (Operation × Outcome) :=
  journal.filterMap Event.operation?

theorem Journal.operations_append (first second : Journal) :
    operations (first ++ second) = first.operations ++ second.operations :=
  List.filterMap_append

/-- A journal counts an operation by its result, and nothing else: as `ok` if it returned, by the
kind of the failure if it failed in the store's own terms, and not at all if it failed otherwise. A
batch of failures is throttled if it has failures and all of them are. -/
structure Journal.CountsOnly (journal : Journal) (operation : Operation)
    (result : Except Fault α) : Prop where
  returned : ∀ answer, result = .ok answer → journal.operations = [(operation, .ok)]
  failed : ∀ problem cause, result = .error (.storage problem cause) →
    journal.operations = [(operation, .failed problem.kind)]
  batch : ∀ failures cause, result = .error (.storage (.batchDelete failures) cause) →
    (journal.operations = [(operation, .failed .throttled)] ↔
      failures ≠ [] ∧ ∀ failure ∈ failures, failure.2.isThrottled = true)
  foreign : ∀ fault, result = .error fault → fault.isStorage = false → journal.operations = []

/-- What is counted when an operation ends with a result. -/
def Operation.counts (operation : Operation) : Except Fault α → List (Operation × Outcome)
  | .ok _ => [(operation, .ok)]
  | .error (.storage problem _) => [(operation, .failed problem.kind)]
  | .error _ => []

/-- What is made of an answer has no part in how it is counted. -/
theorem Operation.counts_map {β : Type} (operation : Operation) (result : Except Fault α)
    (make : α → β) : operation.counts (result.map make) = operation.counts result := by
  cases result with
  | ok answer => rfl
  | error fault => cases fault <;> rfl

/-- A journal whose only counted operation is the given one counts that one, with its result. -/
theorem Journal.CountsOnly.of_counts {journal : Journal} {operation : Operation}
    {result : Except Fault α} (counted : journal.operations = operation.counts result) :
    journal.CountsOnly operation result where
  returned := by
    rintro answer rfl
    exact counted
  failed := by
    rintro problem cause rfl
    exact counted
  batch := by
    rintro failures cause rfl
    rw [counted, ← StorageProblem.kind_batchDelete_iff]
    simp [Operation.counts]
  foreign := by
    rintro fault rfl foreign
    cases fault with
    | storage => cases foreign
    | _ => exact counted

/-- An operation is counted as it ends. -/
theorem Scene.tallied_operations (operation : Operation) (act : Act (Scene σ) α)
    (scene : Scene σ) :
    (tallied operation act scene).1 = (act scene).1 ∧
    (tallied operation act scene).2.journal.operations =
      (act scene).2.journal.operations ++ operation.counts (act scene).1 := by
  rcases ran : act scene with ⟨result, between⟩
  unfold tallied
  simp only [Act.bind_apply, Act.outcome_apply, ran]
  cases result with
  | ok answer => simp [Act.bind_apply, Journal.operations, Event.operation?, Operation.counts]
  | error fault =>
    cases fault <;>
      simp [Act.bind_apply, Journal.operations, Event.operation?, Operation.counts]

/-- Getting a client counts no operation. -/
theorem ClientPool.clientAt_operations (pool : ClientPool σ) (target : Datum) (scene : Scene σ) :
    (pool.clientAt target scene).2.journal.operations = scene.journal.operations := by
  have answers := pool.clientAt_answers target scene
  generalize (pool.clientAt target scene).1 = result at answers
  generalize (pool.clientAt target scene).2 = after at answers ⊢
  cases answers with
  | refused | unkeyable | kept => rfl
  | failed identity isKey unknown built state journal =>
    rw [journal, Journal.operations_append]
    exact List.append_nil _
  | made identity isKey unknown built state journal =>
    rw [journal, Journal.operations_append]
    exact List.append_nil _

/-- An act is counted as an operation by its result, and counts nothing besides. -/
def Act.IsCounted (operation : Operation) (act : Act (Scene σ) α) : Prop :=
  ∀ scene, (act scene).2.journal.operations =
    scene.journal.operations ++ operation.counts (act scene).1

/-- If what is tallied counts no operation, only the tally does. -/
theorem Act.IsCounted.of_pairs {operation : Operation} {act other : Act (Scene σ) α}
    (counted : ∀ total, act.CountedPairs operation
      (Holding fun scene => scene.journal.operations = total) Eq other) :
    act.IsCounted operation := by
  intro scene
  obtain ⟨inner, _, rfl, _, pairs⟩ := counted scene.journal.operations
  obtain ⟨result, operations⟩ := Scene.tallied_operations operation inner scene
  rw [operations, result, pairs.keeps rfl]

/-- What is seen of a call counts it as an operation, and nothing else. -/
def CallReport.CountsOnly (report : CallReport) (operation : Operation) : Prop :=
  report.journal.CountsOnly operation report.result

namespace BucketStore

variable (store : BucketStore σ)

/-- What a store does within its operations counts no operation. -/
theorem matches_uncounted (total : List (Operation × Outcome)) :
    store.Matches (Holding fun scene => scene.journal.operations = total) (fun _ => True)
      store := by
  have asks {β : Type} (request : Request) (act : Act σ β) : (Scene.ask request act).Pairs
      (Holding fun scene => scene.journal.operations = total) Eq (Scene.ask request act) := by
    refine .of_keeps fun scene held => ?_
    rw [Scene.ask_apply, Journal.operations_append, held]
    exact List.append_nil _
  constructor
  case client =>
    intro target
    refine (Act.Pairs.of_keeps fun scene held => ?_).mono fun _ _ same => ⟨same, fun _ _ => trivial⟩
    exact (store.pool.clientAt_operations target scene).trans held
  case context => exact fun message => .of_keeps fun scene held => held
  case record =>
    intro record
    refine .of_keeps fun scene held => ?_
    rw [Scene.note_apply, Journal.operations_append, held]
    exact List.append_nil _
  all_goals
    intros
    exact asks _ _

/-- A ping is counted once, as what it ends in. -/
theorem ping_isCounted (source : Datum) : (store.ping source).IsCounted .ping :=
  .of_pairs fun total => (store.matches_uncounted total).ping_counted source

/-- So is a read. -/
theorem read_isCounted (source : Datum) : (store.read source).IsCounted .read :=
  .of_pairs fun total => (store.matches_uncounted total).read_counted source

/-- So is a commit, as a write. -/
theorem commit_isCounted (location : Location) (payload : List UInt8) :
    (store.commit location payload).IsCounted .write :=
  .of_pairs fun total => (store.matches_uncounted total).commit_counted location payload

/-- So is a delete, whatever the number of its groups. -/
theorem delete_isCounted (locations : Datum) : (store.delete locations).IsCounted .delete :=
  .of_pairs fun total => (store.matches_uncounted total).delete_counted locations

/-- A call that is an operation on the scene is counted by what it answers. -/
theorem report_countsOnly {operation : Operation} {call : ClientCall} {act : Act (Scene σ) α}
    (counted : act.IsCounted operation) (make : α → ClientAnswer)
    (calls : store.answer call = make <$> Desk.onScene act) (desk : Desk σ) :
    (store.report call desk).1.CountsOnly operation := by
  apply Journal.CountsOnly.of_counts
  have answered := congrFun calls desk.cleared
  unfold Desk.onScene at answered
  rw [Act.map_onPart_apply] at answered
  change (store.answer call desk.cleared).2.scene.journal.operations =
    operation.counts (store.answer call desk.cleared).1
  rw [answered, operation.counts_map]
  exact counted desk.cleared.scene

/-- What is counted of the use of a sink: its commit, if it comes to one, by how the commit ends,
and otherwise nothing. Only a close or the end of a block comes to a commit, and only if the sink
collects; a close then ends as its commit does. -/
structure AccountsForSink (desk : Desk σ) (id : Text) (held : HeldSink σ)
    (operation : SinkOp) : Prop where
  used : ∃ after, (store.report (.useSink id operation) desk).2.sinks.lookup id = some after ∧
    (held.sink.HasCommitted after.sink → ∃ location payload,
      held.commit = store.commit location ∧
      (store.report (.useSink id operation) desk).1.journal.CountsOnly .write
        (store.commit location payload desk.cleared.scene).1) ∧
    (¬ held.sink.HasCommitted after.sink →
      (store.report (.useSink id operation) desk).1.journal.operations = [])
  calm : operation.isCalm = true ∨ held.sink.isClosed = true →
    (store.report (.useSink id operation) desk).1.journal.operations = []
  closes : operation = .close → held.sink.isClosed = false →
    (store.report (.useSink id operation) desk).1.CountsOnly .write

/-- What is counted of the next call to a store. Each probe, read and delete is counted once, and
the failures of a delete are never none; to open a sink is not counted. -/
structure Accounts (desk : Desk σ) : Prop where
  ping : ∀ location, (store.report (.ping .straight location) desk).1.CountsOnly .ping
  read : ∀ location, (store.report (.read .straight location) desk).1.CountsOnly .read
  delete : ∀ locations, (store.report (.delete .straight locations) desk).1.CountsOnly .delete
  failures : ∀ locations failures cause,
    (store.report (.delete .straight locations) desk).1.result =
      .error (.storage (.batchDelete failures) cause) → failures ≠ []
  openSink : ∀ id location answer,
    (store.report (.openSink .straight id location) desk).1.result = .ok answer →
      (store.report (.openSink .straight id location) desk).1.journal.operations = []
  useSink : ∀ id held operation, desk.sinks.lookup id = some held →
    store.AccountsForSink desk id held operation

variable {store}

/-- A batch of failures that a delete ends in has failures. -/
theorem delete_failures {locations : Datum} {scene : Scene σ} {failures : List (Text × Fault)}
    {cause : Cause}
    (failed : (store.delete locations scene).1 = .error (.storage (.batchDelete failures) cause)) :
    failures ≠ [] := by
  cases parse : (do (← locations.items).mapM Datum.toObjectLocation) with
  | error fault =>
    obtain ⟨_, ran⟩ := store.delete_unparsed parse scene
    rw [ran] at failed
    cases failed
    rcases Except.bind_error parse with unlisted | ⟨items, _, unfit⟩
    · cases FailsOutside.items locations _ unlisted
    · obtain ⟨item, _, refused⟩ := Except.mapM_error unfit
      obtain ⟨problem, located⟩ := Datum.toObjectLocation_error refused
      cases located
  | ok parsed =>
    obtain ⟨items, listed, fit⟩ := Except.bind_ok parse
    rcases ran : store.deleteGroups (keysByBucket parsed) scene with ⟨result, between⟩
    obtain ⟨_, ended⟩ := store.delete_parsed listed fit ran
    rw [ended] at failed
    cases result with
    | error fault =>
      cases failed
      have outside := store.deleteGroups_outside (keysByBucket parsed) scene
      rw [ran] at outside
      cases outside _ rfl
    | ok gathered =>
      cases gathered with
      | nil => cases failed
      | cons first rest =>
        cases failed
        exact List.cons_ne_nil first rest

/-- Using a sink in use runs the operation on it and puts the sink back. -/
theorem report_useSink {desk : Desk σ} {id : Text} {held : HeldSink σ}
    (found : desk.sinks.lookup id = some held) (operation : SinkOp) :
    let ran := operation.run held.commitBeside (held.sink, desk.cleared.scene)
    store.report (.useSink id operation) desk =
      (⟨ran.1.map fun answer => .sink answer ran.2.1.phase.name, ran.2.2.journal⟩,
        ⟨ran.2.2, putEntry desk.sinks id { held with sink := ran.2.1 }⟩) := by
  intro ran
  have used : Desk.useSink id operation desk.cleared =
      (ran.1.map fun answer => .sink answer ran.2.1.phase.name,
        ⟨ran.2.2, putEntry desk.sinks id { held with sink := ran.2.1 }⟩) := by
    have cleared : desk.cleared.sinks.lookup id = some held := found
    unfold Desk.useSink
    rw [cleared]
    rfl
  have reported : store.report (.useSink id operation) desk =
      (⟨(Desk.useSink id operation desk.cleared).1,
        (Desk.useSink id operation desk.cleared).2.scene.journal⟩,
        (Desk.useSink id operation desk.cleared).2) := rfl
  rw [reported, used]

/-- The commit of a sink in use is counted as one write, and the rest of its uses is not counted. -/
theorem accountsForSink {desk : Desk σ} (sinks : store.HasSinks desk) {id : Text}
    {held : HeldSink σ} (found : desk.sinks.lookup id = some held) (operation : SinkOp) :
    store.AccountsForSink desk id held operation := by
  obtain ⟨coupled, location, commits⟩ := sinks _ (mem_of_lookup found)
  have settles := held.run_settles coupled operation desk.cleared.scene
  have calmly (calm : operation.isCalm = true) :=
    SinkOp.run_calm calm held.commitBeside (held.sink, desk.cleared.scene)
  have seen := store.report_useSink found operation
  rcases ran : operation.run held.commitBeside (held.sink, desk.cleared.scene) with
    ⟨result, after, later⟩
  rw [ran] at settles calmly seen
  dsimp only at settles calmly seen
  have counted (payload : List UInt8) :
      (held.commit payload desk.cleared.scene).2.journal.CountsOnly .write
        (held.commit payload desk.cleared.scene).1 := by
    rw [commits]
    exact .of_counts (store.commit_isCounted location payload desk.cleared.scene)
  constructor
  · rw [seen]
    refine ⟨_, (lookup_putEntry ..).trans (if_pos rfl), fun committed => ?_, fun uncommitted => ?_⟩
    · cases settles with
      | stays uncommitted => exact (uncommitted committed).elim
      | commits _ payload => exact ⟨location, payload, commits, commits ▸ counted payload⟩
    · cases settles with
      | stays _ => rfl
      | commits committed _ => exact (uncommitted committed).elim
  · rw [seen]
    rintro (calm | closed)
    · rw [calmly calm]
      rfl
    · cases settles with
      | stays _ => rfl
      | commits committed _ => cases closed.symm.trans committed.1
  · rintro rfl opened
    rcases coupled.cases with spent | ⟨buffer, collects⟩
    · cases opened.symm.trans spent.closed
    cases ran.symm.trans (held.run_close desk.cleared.scene collects)
    rw [seen]
    apply Journal.CountsOnly.of_counts
    have write := store.commit_isCounted location buffer desk.cleared.scene
    rw [← commits] at write
    exact write.trans (((Operation.counts_map ..).trans (Operation.counts_map ..)).symm)

/-- A desk at which all sinks commit to the store is accounted for. -/
theorem accounts_of_hasSinks {desk : Desk σ} (sinks : store.HasSinks desk) :
    store.Accounts desk where
  ping location :=
    store.report_countsOnly (store.ping_isCounted location) (fun _ => .nothing) rfl desk
  read location := store.report_countsOnly (store.read_isCounted location) .body rfl desk
  delete locations :=
    store.report_countsOnly (store.delete_isCounted locations) (fun _ => .nothing) rfl desk
  failures locations failures cause failed := by
    have answered := Act.map_onPart_apply (store.delete locations) Desk.scene
      (fun desk scene => { desk with scene }) (fun _ => ClientAnswer.nothing) desk.cleared
    have ended : (store.delete locations desk.cleared.scene).1.map (fun _ => ClientAnswer.nothing) =
        .error (.storage (.batchDelete failures) cause) :=
      (congrArg Prod.fst answered).symm.trans failed
    cases result : (store.delete locations desk.cleared.scene).1 with
    | ok nothing =>
      rw [result] at ended
      cases ended
    | error fault =>
      rw [result] at ended
      cases ended
      exact delete_failures result
  openSink id location answer _ := by
    have opened : store.answer (.openSink .straight id location) = (do
        let target ← Desk.onScene (store.openSink location)
        Desk.hold id target
        return .text target.name) := rfl
    change (store.answer _ desk.cleared).2.scene.journal.operations = []
    rw [opened, store.openSink_eq]
    cases location.toObjectLocation <;> rfl
  useSink _ _ operation found := accountsForSink sinks found operation

/-- In a row of calls each is reported as it happens at the desk that those before it leave. -/
theorem session_append (store : BucketStore σ) (earlier later : List ClientCall)
    (desk : Desk σ) : (store.session (earlier ++ later) desk).1 =
      (store.session earlier desk).1 ++ (store.session later (store.session earlier desk).2).1 := by
  induction earlier generalizing desk with
  | nil => rfl
  | cons call rest ih => exact congrArg (List.cons _) (ih _)

/-- A store accounts for every call of every session. The report of a call tells what happened in
it, and what it counts is one operation by its outcome, or nothing. -/
theorem accounts (store : BucketStore σ) (earlier : List ClientCall) (remote : σ) :
    store.Accounts (store.session earlier (.start remote)).2 ∧
    ∀ call later, ∃ others, (store.session (earlier ++ call :: later) (.start remote)).1 =
      (store.session earlier (.start remote)).1 ++
        (store.report call (store.session earlier (.start remote)).2).1 :: others := by
  refine ⟨accounts_of_hasSinks (session_hasSinks store earlier nofun), fun call later => ?_⟩
  exact ⟨_, session_append store earlier (call :: later) (.start remote)⟩

/-- A service whose reads end in a batch of no failures. -/
def hollowService : Remote Unit where
  now _ := .beginning
  build _ := pure (some ⟨0, true⟩)
  headBucket _ _ := pure ()
  getObject _ _ _ := Act.fail (.storage (.batchDelete []) .nothing)
  putObject _ _ _ _ := pure ()
  deleteObjects _ _ _ := pure (.table [])
  close _ := pure ()

def hollowStore : BucketStore Unit :=
  ⟨"pool", hollowService, ⟨.empty, [], none⟩, .options⟩

/-- A batch of no failures passes through a read. All its failures are throttled, for it has none,
and the read is not counted as throttled. -/
theorem hollowStore_not_throttled :
    ∃ failures cause, (∀ failure ∈ failures, Fault.isThrottled failure.2 = true) ∧
      (hollowStore.report (.read .straight (.text "s3://b/k")) (.start ())).1.result =
        .error (.storage (.batchDelete failures) cause) ∧
      (hollowStore.report (.read .straight (.text "s3://b/k")) (.start ())).1.journal.operations =
        [(.read, .failed .fatal)] :=
  ⟨[], .itself, nofun, rfl, rfl⟩

end BucketStore

end ObjectStorage
