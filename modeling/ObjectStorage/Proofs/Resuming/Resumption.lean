import ObjectStorage.Proofs.Boundary.Refusals
import ObjectStorage.Proofs.Configuration.Usability
import ObjectStorage.Proofs.Resuming.Delays
import ObjectStorage.Proofs.Routing.Merging

/-!
# Resumption

When a store fails because its service asks to slow down, the failure says when to try again, and
that is later than the failure: reads, commits and the members of a batch delete are put off by the
delay that the service hints at, that of the options, or ten seconds, and a batch until all its
members may be tried again (`BucketStore.resumption`). The options of accepted settings have no
delay that goes back in time.
-/

namespace ObjectStorage

open Number Text Time

variable {σ α β : Type}

/-- Accepted settings give options whose delay does not go back in time. -/
theorem Settings.storeOptions_noneBack {draft : SettingsDraft} {settings : Settings}
    {options : StoreOptions} (accepted : make draft = .ok settings)
    (given : settings.storeOptions = .ok options) : NoneBack options.retryAfter := by
  obtain ⟨_, _, given⟩ := Except.bind_ok given
  obtain ⟨retryAfter, timed, given⟩ := Except.bind_ok given
  cases given
  have isAccepted : settings.IsAccepted := ⟨draft, accepted⟩
  rcases isAccepted.retryDelay_cases with ⟨_, delay, same, delays⟩ | ⟨_, fault, failed, _⟩
  · obtain rfl := Except.ok.inj (timed.symm.trans same)
    rintro own rfl
    rcases delays with ⟨_, nothing⟩ | ⟨_, given, rounds⟩
    · cases nothing
    · cases given
      exact rounds.forward
  · cases timed.symm.trans failed

/-- What fails for a reason outside the store is not a throttled failure. -/
theorem FailsOutside.unthrottled {result : Except Fault α} (outside : FailsOutside result)
    (fault : Fault) (failed : result = .error fault) : fault.throttledUntil? = none := by
  have foreign := outside fault failed
  cases fault with
  | storage problem cause => cases foreign
  | _ => rfl

namespace BucketStore

/-- If an act fails because the service asked to slow down, the failure puts the next try off. -/
def Postpones (store : BucketStore σ) (act : Act (Scene σ) α) : Prop :=
  ∀ scene after resumeAt message response text,
    act scene = (.error (.storage (.throttled resumeAt message) (.fault (.service response text))),
      after) →
    PutsOff response store.pool.options.retryAfter (store.pool.remote.now after.remote) resumeAt

variable {store : BucketStore σ}

/-- A result that is not throttled postpones nothing. -/
theorem Postpones.ofExcept {result : Except Fault α}
    (unthrottled : ∀ fault, result = .error fault → fault.throttledUntil? = none) :
    store.Postpones (Act.ofExcept result) := by
  intro scene after resumeAt message response text failed
  cases unthrottled _ (congrArg Prod.fst failed)

theorem Postpones.answer (answer : α) : store.Postpones (pure answer : Act (Scene σ) α) := nofun

/-- Acts that put the next try off do so one after the other. -/
theorem Postpones.bind {act : Act (Scene σ) α} {next : α → Act (Scene σ) β}
    (first : store.Postpones act) (later : ∀ answer, store.Postpones (next answer)) :
    store.Postpones (act >>= next) := by
  intro scene after resumeAt message response text failed
  rcases ran : act scene with ⟨result, between⟩
  cases result with
  | ok answer =>
    rw [Act.bind_ok ran] at failed
    exact later answer _ _ _ _ _ _ failed
  | error fault =>
    rw [Act.bind_error ran] at failed
    cases failed
    exact first _ _ _ _ _ _ ran

/-- They do so when they are counted. -/
theorem Postpones.tallied {act : Act (Scene σ) α} (postpones : store.Postpones act)
    (operation : Operation) : store.Postpones (Scene.tallied operation act) := by
  intro scene after resumeAt message response text failed
  rcases ran : act scene with ⟨result, between⟩
  obtain ⟨counters, counted⟩ := Scene.tallied_counts operation ran
  rw [counted] at failed
  cases failed
  have delayed := postpones _ _ _ _ _ _ ran
  exact delayed

/-- A fault that is judged to be throttled puts the next try off. -/
theorem failJudged_putsOff {context : FailureContext} {fault : Fault} {scene after : Scene σ}
    {resumeAt : Instant} {message : Text} {response : Datum} {text : Text}
    (patient : NoneBack context.delay) (failed : failJudged (α := α) context fault scene =
      (.error (.storage (.throttled resumeAt message) (.fault (.service response text))), after)) :
    PutsOff response context.delay context.now resumeAt ∧ after.remote = scene.remote := by
  rcases fault.isStorage_cases with ⟨problem, cause, rfl⟩ | foreign
  · cases failed
  · unfold failJudged at failed
    rw [judge_foreign context foreign] at failed
    cases given : Verdict.ofFault context fault with
    | error other =>
      rw [given] at failed
      cases failed
      cases FailsOutside.verdict context fault _ given
    | ok verdict =>
      rw [given] at failed
      simp only [Act.bind_apply, Act.ofExcept_apply, Scene.note_apply, Act.pure_apply, foreign,
        Bool.false_eq_true, ↓reduceIte, Act.fail_apply] at failed
      obtain ⟨told, rfl⟩ := Prod.mk.inj failed
      obtain ⟨slow, raised⟩ := Fault.storage.inj (Except.error.inj told)
      cases raised
      exact ⟨Verdict.ofFault_putsOff patient given slow, rfl⟩

/-- A guard puts the next try off from the time of the failure. -/
theorem Postpones.guarded (patient : NoneBack store.pool.options.retryAfter) (words : Text)
    (act : Act (Scene σ) α) : store.Postpones (store.guarded words act) := by
  intro scene after resumeAt message response text failed
  rcases ran : act scene with ⟨result, between⟩
  cases result with
  | ok answer => cases (store.guarded_ok ran).symm.trans failed
  | error fault =>
    by_cases interrupts : fault.isInterrupt = true
    · cases (store.guarded_interrupted ran interrupts).symm.trans failed
      cases interrupts
    · rw [store.guarded_judged ran (by simpa using interrupts)] at failed
      obtain ⟨delayed, unmoved⟩ := failJudged_putsOff patient failed
      rwa [unmoved]

/-- The check of a place is never throttled. -/
theorem Postpones.place (source : Datum) :
    store.Postpones (Act.ofExcept source.toObjectLocation) := by
  apply Postpones.ofExcept
  intro fault refused
  obtain ⟨problem, rfl⟩ := Datum.toObjectLocation_error refused
  rfl

/-- A read that is throttled puts the next try off. -/
theorem read_postpones (patient : NoneBack store.pool.options.retryAfter) (source : Datum) :
    store.Postpones (store.read source) := by
  refine Postpones.tallied (.bind (.place source) fun location => ?_) .read
  exact .bind (.guarded patient _ _) fun reply => .ofExcept (bodyOf_outside reply).unthrottled

/-- A commit that is throttled does so too. -/
theorem commit_postpones (patient : NoneBack store.pool.options.retryAfter) (location : Location)
    (payload : List UInt8) : store.Postpones (store.commit location payload) :=
  .tallied (.guarded patient _ _) .write

/-- The errors of single keys are read, or it is a fault from outside. -/
theorem keyErrors_outside (response : Datum) : FailsOutside (keyErrors response) :=
  (FailsOutside.get _ _).bind fun _ => .items _

/-- The failure for errors of single keys is never throttled. -/
theorem keyErrorsFault_unthrottled (bucket : Text) (errors : List Datum) (fault : Fault)
    (told : keyErrorsFault bucket errors = .ok fault) : fault.throttledUntil? = none := by
  obtain ⟨shown, _, told⟩ := Except.bind_ok told
  cases told
  rfl

/-- Where it cannot be made, it is a fault from outside. -/
theorem keyErrorsFault_outside (bucket : Text) (errors : List Datum) :
    FailsOutside (keyErrorsFault bucket errors) := by
  refine FailsOutside.bind ?_ fun shown => .ok _
  intro fault failed
  obtain ⟨error, _, failed⟩ := Except.mapM_error failed
  have outside : FailsOutside (keyErrorText error) :=
    (FailsOutside.get _ _).bind fun _ => (FailsOutside.get _ _).bind fun _ => .ok _
  exact outside fault failed

/-- The delete of the keys of a bucket does so too. -/
theorem deletePieces_postpones (patient : NoneBack store.pool.options.retryAfter) (client : Client)
    (bucket : Text) (pieces : List (List Text)) :
    store.Postpones (store.deletePieces client bucket pieces) := by
  induction pieces with
  | nil => exact .answer []
  | cons keys rest ih =>
    refine .bind (.guarded patient _ _) fun response => ?_
    refine .bind (.ofExcept (keyErrors_outside response).unthrottled) fun errors => ?_
    exact .bind ih fun others => .answer _

/-- A delete in one bucket puts the next try off. -/
theorem deleteFrom_postpones (patient : NoneBack store.pool.options.retryAfter) (bucket : Text)
    (keys : List Text) : store.Postpones (store.deleteFrom bucket keys) := by
  refine .bind (.guarded patient _ _) fun client => ?_
  refine .bind (deletePieces_postpones patient client bucket _) fun errors => ?_
  split
  · intro scene after resumeAt message response text failed
    cases told : keyErrorsFault bucket errors with
    | error fault =>
      rw [told] at failed
      cases failed
      cases keyErrorsFault_outside bucket errors _ told
    | ok fault =>
      rw [told] at failed
      have raised : fault = _ := Except.error.inj (congrArg Prod.fst failed)
      have unthrottled := keyErrorsFault_unthrottled bucket errors fault told
      rw [raised] at unthrottled
      cases unthrottled
  · exact .answer _

/-- Going group by group, the delete in a bucket ended in a failure at a moment. -/
def FailsAt (store : BucketStore σ) (groups : List (Text × List Text)) (before : Scene σ)
    (bucket : Text) (failure : Fault) (moment : Scene σ) : Prop :=
  ∃ front keys rest failures between, groups = front ++ (bucket, keys) :: rest ∧
    store.deleteGroups front before = (.ok failures, between) ∧
    store.deleteFrom bucket keys between = (.error failure, moment)

/-- Every failure of a batch is that of the delete in its bucket. -/
theorem deleteGroups_failsAt {groups : List (Text × List Text)} {failures : List (Text × Fault)}
    {before after : Scene σ} (ran : store.deleteGroups groups before = (.ok failures, after))
    {bucket : Text} {failure : Fault} (inside : (bucket, failure) ∈ failures) :
    ∃ moment, store.FailsAt groups before bucket failure moment := by
  induction groups generalizing failures before after with
  | nil =>
    cases ran
    cases inside
  | cons group rest ih =>
    obtain ⟨name, keys⟩ := group
    rcases store.deleteGroups_ran ran with
      ⟨next, tried, later⟩ | ⟨fault, between, next, behind, tried, rfl, later, goes⟩
    · obtain ⟨moment, front, own, others, early, state, rfl, led, failed⟩ := ih later inside
      exact ⟨moment, (name, keys) :: front, own, others, early, state, rfl,
        (store.deleteGroups_ok tried front).trans led, failed⟩
    · rcases List.mem_cons.mp inside with here | inside
      · cases here
        exact ⟨between, [], keys, rest, [], before, rfl, rfl, tried⟩
      · obtain ⟨moment, front, own, others, early, state, rfl, led, failed⟩ := ih later inside
        exact ⟨moment, (name, keys) :: front, own, others, _, state, rfl,
          (goes front).trans (Act.bind_ok led), failed⟩

/-- A delete that ends in a batch of failures went through the groups of its keys. -/
theorem delete_batch {locations : Datum} {failures : List (Text × Fault)} {cause : Cause}
    {before after : Scene σ}
    (failed : store.delete locations before =
      (.error (.storage (.batchDelete failures) cause), after)) :
    ∃ items parsed between, locations.items = .ok items ∧
      items.mapM Datum.toObjectLocation = .ok parsed ∧
      store.deleteGroups (keysByBucket parsed) before = (.ok failures, between) := by
  cases listed : locations.items with
  | error fault =>
    have unfit : (locations.items >>= fun items => items.mapM Datum.toObjectLocation) =
        .error fault := by rw [listed]; rfl
    obtain ⟨_, ended⟩ := store.delete_unparsed unfit before
    cases failed.symm.trans ended
    cases FailsOutside.items _ _ listed
  | ok items =>
    cases fit : items.mapM Datum.toObjectLocation with
    | error fault =>
      obtain ⟨item, _, refused⟩ := Except.mapM_error fit
      obtain ⟨problem, rfl⟩ := Datum.toObjectLocation_error refused
      have unfit : (locations.items >>= fun items => items.mapM Datum.toObjectLocation) =
          .error (.ofLocation problem) := by rw [listed]; exact fit
      obtain ⟨_, ended⟩ := store.delete_unparsed unfit before
      cases failed.symm.trans ended
    | ok parsed =>
      rcases gone : store.deleteGroups (keysByBucket parsed) before with ⟨result, between⟩
      obtain ⟨_, ended⟩ := store.delete_parsed listed fit gone
      have told := congrArg Prod.fst (failed.symm.trans ended)
      cases result with
      | error fault =>
        cases told
        cases store.deleteGroups_outside _ _ _ (congrArg Prod.fst gone)
      | ok others =>
        cases others with
        | nil => cases told
        | cons first rest =>
          cases told
          exact ⟨items, parsed, between, rfl, fit, gone⟩

/-- When a store says to try again after its service asked to slow down. -/
structure Resumes (store : BucketStore σ) : Prop where
  /-- The next read is put off from the time of the failure, -/
  read : ∀ source, store.Postpones (store.read source)
  /-- and so is the next commit of a sink, -/
  commit : ∀ source scene target opened, store.openSink source scene = (.ok target, opened) →
    ∀ payload, store.Postpones (target.commit payload)
  /-- and so is the next delete in each bucket of a batch. -/
  deleted : ∀ locations before failures cause after,
    store.delete locations before = (.error (.storage (.batchDelete failures) cause), after) →
    ∀ bucket resumeAt message response text,
      (bucket, .storage (.throttled resumeAt message) (.fault (.service response text))) ∈
        failures →
      ∃ items parsed moment, locations.items = .ok items ∧
        items.mapM Datum.toObjectLocation = .ok parsed ∧
        store.FailsAt (keysByBucket parsed) before bucket
          (.storage (.throttled resumeAt message) (.fault (.service response text))) moment ∧
        PutsOff response store.pool.options.retryAfter (store.pool.remote.now moment.remote)
          resumeAt

/-- All operations of a store put the next try off when they are throttled. -/
theorem resumes (patient : NoneBack store.pool.options.retryAfter) : store.Resumes where
  read := read_postpones patient
  commit source scene target opened answered payload := by
    rw [openSink_eq] at answered
    cases fit : source.toObjectLocation with
    | error fault =>
      rw [fit] at answered
      cases answered
    | ok location =>
      rw [fit] at answered
      cases answered
      exact commit_postpones patient location payload
  deleted locations before failures cause after failed bucket resumeAt message response text
      inside := by
    obtain ⟨items, parsed, between, listed, fit, ran⟩ := delete_batch failed
    obtain ⟨moment, failsAt⟩ := deleteGroups_failsAt ran inside
    have ⟨_, keys, _, _, _, _, _, ended⟩ := failsAt
    exact ⟨items, parsed, moment, listed, fit, failsAt,
      deleteFrom_postpones patient bucket keys _ _ _ _ _ _ ended⟩

end BucketStore

/-- A batch says to try again once all its throttled members may be. -/
theorem StorageProblem.resumeAt?_batchDelete {failures : List (Text × Fault)} {bucket : Text}
    {failure : Fault} {instant : Instant} (inside : (bucket, failure) ∈ failures)
    (throttled : failure.throttledUntil? = some instant) :
    ∃ latest, (StorageProblem.batchDelete failures).resumeAt? = some latest ∧
      instant.micros ≤ latest.micros := by
  have hinted : instant ∈ failures.filterMap fun failure => failure.2.throttledUntil? :=
    List.mem_filterMap.mpr ⟨_, inside, throttled⟩
  change ∃ latest, latest? (failures.filterMap fun failure => failure.2.throttledUntil?) =
    some latest ∧ _
  cases found : latest? (failures.filterMap fun failure => failure.2.throttledUntil?) with
  | none =>
    cases given : failures.filterMap fun failure => failure.2.throttledUntil? with
    | nil =>
      rw [given] at hinted
      cases hinted
    | cons first rest =>
      rw [given] at found
      cases found
  | some latest => exact ⟨latest, rfl, (latest?_eq_some_iff.mp found).2 instant hinted⟩

/-- A failure because the service asked to slow down says to try again strictly later than it
happened: after the first delay that is not zero of the one that the service hints at, the one of
the options, and ten seconds. This holds of every verdict if the delay of the options does not go
back in time, which accepted settings see to, and then of all that a store reads, commits and
deletes. A batch says to try again once all its throttled members may be. -/
theorem BucketStore.resumption (store : BucketStore σ) :
    (∀ (context : FailureContext) (response : Datum) (text : Text) (scene after : Scene σ)
      (failure : Fault), NoneBack context.delay →
      (Fault.service response text).asksToSlowDown = .ok true →
      judge context (.service response text) scene = (.ok failure, after) →
      ∃ resumeAt, failure = .storage (.throttled resumeAt (context.message ++ ": throttled"))
          (.fault (.service response text)) ∧
        PutsOff response context.delay context.now resumeAt) ∧
    (∀ draft settings, Settings.make draft = .ok settings →
      settings.storeOptions = .ok store.pool.options → NoneBack store.pool.options.retryAfter) ∧
    (NoneBack store.pool.options.retryAfter → store.Resumes) ∧
    ∀ failures bucket failure instant, (bucket, failure) ∈ failures →
      failure.throttledUntil? = some instant →
      ∃ latest, (StorageProblem.batchDelete failures).resumeAt? = some latest ∧
        instant.micros ≤ latest.micros :=
  ⟨fun _ _ _ _ _ _ patient asks judged => judge_putsOff patient asks judged,
    fun _ _ accepted given => Settings.storeOptions_noneBack accepted given, resumes,
    fun _ _ _ _ inside throttled => StorageProblem.resumeAt?_batchDelete inside throttled⟩

/-- A service that asks to slow down, but for less than a microsecond. -/
def hastyService : Remote Unit where
  now _ := .beginning
  build _ := pure (some ⟨0, true⟩)
  headBucket _ _ := Act.fail (.service (slowResponse "1e-7") "")
  getObject _ _ _ := Act.fail (.service (slowResponse "1e-7") "")
  putObject _ _ _ _ := Act.fail (.service (slowResponse "1e-7") "")
  deleteObjects _ _ _ := Act.fail (.service (slowResponse "1e-7") "")
  close _ := pure ()

/-- Settings to wait for three seconds. -/
def patientSettings : SettingsDraft :=
  { SettingsDraft.standard with retryAfter := .int 3 }

/-- A store with these settings in front of the hasty service. -/
def patientStore : BucketStore Unit :=
  ⟨"pool", hastyService, ⟨{ ClientOptions.empty with pathStyle := .bool false }, [],
    some ⟨3000000⟩⟩, .options⟩

/-- What is made of a request to slow down when an object is read. -/
def hastyFailure : Fault :=
  .storage (.throttled ⟨3000000, by decide⟩ "Failed to read s3://b/k: throttled")
    (.fault (.service (slowResponse "1e-7") ""))

/-- A delay of less than a microsecond is none, so the store waits as its settings say. -/
theorem patientStore_resumption :
    (∃ settings, Settings.make patientSettings = .ok settings ∧
      settings.storeOptions = .ok patientStore.pool.options) ∧
    patientStore.Resumes ∧
    (slowResponse "1e-7").askedDelay? = some ⟨0⟩ ∧
    (patientStore.read (.text "s3://b/k") (.start ())).1 = .error hastyFailure ∧
    PutsOff (slowResponse "1e-7") (some ⟨3000000⟩) .beginning ⟨3000000, by decide⟩ ∧
    ∃ latest, (StorageProblem.batchDelete [("b", hastyFailure)]).resumeAt? = some latest ∧
      3000000 ≤ latest.micros := by
  obtain ⟨judges, settled, stores, batches⟩ := patientStore.resumption
  have accepted : ∃ settings, Settings.make patientSettings = .ok settings ∧
      settings.storeOptions = .ok patientStore.pool.options := ⟨_, rfl, rfl⟩
  obtain ⟨settings, isMade, given⟩ := accepted
  have patient := settled _ settings isMade given
  obtain ⟨resumeAt, isFailure, putsOff⟩ := judges
    ⟨.beginning, some ⟨3000000⟩, "Failed to read s3://b/k"⟩ (slowResponse "1e-7") "" (.start ()) _
    hastyFailure patient rfl rfl
  cases isFailure
  exact ⟨⟨settings, isMade, given⟩, stores patient, rfl, rfl, putsOff,
    batches _ "b" hastyFailure ⟨3000000, by decide⟩ (List.mem_singleton_self _) rfl⟩

end ObjectStorage
