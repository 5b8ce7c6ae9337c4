import ObjectStorage.Proofs.Entries
import ObjectStorage.Proofs.Routing.Turns
import ObjectStorage.Service

/-!
# Readiness probes

A probe of a bucket store ends well or in a failure of the store, whatever the service does short of
an interruption (`BucketStore.ping_settles`), and so does one of a router over such stores. So a row
of locations is probed to its end, repetitions included, and what is kept of it are the failures,
the last of each location (`ObjectStore.Reports`). The service is ready exactly if all probes ended
well (`Router.probes_exactly`).
-/

namespace ObjectStorage

open Text

variable {σ τ α : Type}

/-- What a probe comes to that settles: it ended well, or in a failure of the store. -/
inductive ProbeEnds : Except Fault Unit → Prop
  | well : ProbeEnds (.ok ())
  | failed (problem : StorageProblem) (cause : Cause) : ProbeEnds (.error (.storage problem cause))

/-- A probe of a location and what came of it. -/
structure Probe where
  location : Text
  result : Except Fault Unit

namespace Probe

/-- The failure of the store that a probe ended in. -/
def problem? (probe : Probe) : Option StorageProblem :=
  match probe.result with
  | .error (.storage problem _) => some problem
  | _ => none

/-- Puts the failure of a probe, if it failed, among others. -/
def enter (failures : List (Text × Text)) (probe : Probe) : List (Text × Text) :=
  match probe.problem? with
  | some problem => putEntry failures probe.location (probeText problem)
  | none => failures

/-- A probe that ends as a probe does has failed exactly if it has a problem. -/
theorem failed_iff {probe : Probe} (ends : ProbeEnds probe.result) :
    probe.result ≠ .ok () ↔ ∃ problem, probe.problem? = some problem := by
  obtain ⟨location, result⟩ := probe
  cases ends with
  | well => exact ⟨fun failed => (failed rfl).elim, nofun⟩
  | failed problem cause => exact ⟨fun _ => ⟨problem, rfl⟩, fun _ => nofun⟩

end Probe

/-- The last failure among the probes of a location. -/
def lastProblem? (probes : List Probe) (location : Text) : Option StorageProblem :=
  ((probes.filter fun probe => probe.location = location).filterMap Probe.problem?).getLast?

/-- The last probe of a location has its last problem, unless it went well. -/
theorem lastProblem?_concat (probes : List Probe) (last : Probe) (location : Text) :
    lastProblem? (probes ++ [last]) location =
      if last.location = location then last.problem?.or (lastProblem? probes location)
      else lastProblem? probes location := by
  unfold lastProblem?
  rw [List.filter_append, List.filterMap_append]
  by_cases own : last.location = location
  · rw [if_pos own]
    cases problem : last.problem? <;> simp [own, problem]
  · simp [own]

/-- A location has a last failure if one of its probes failed. -/
theorem lastProblem?_isSome_iff {probes : List Probe} {location : Text} :
    (∃ problem, lastProblem? probes location = some problem) ↔
      ∃ probe ∈ probes, probe.location = location ∧ ∃ problem, probe.problem? = some problem := by
  unfold lastProblem?
  rw [← Option.isSome_iff_exists, List.getLast?_isSome, Ne, List.filterMap_eq_nil_iff]
  simp only [List.mem_filter, decide_eq_true_eq, and_imp, not_forall, ← Option.ne_none_iff_exists',
    exists_prop]

/-- Under a location stands the text of its last failure. -/
theorem lookup_entered (probes : List Probe) (location : Text) :
    (probes.foldl Probe.enter []).lookup location =
      (lastProblem? probes location).map probeText := by
  -- From the right, since the last probe of a location decides what stands under it.
  induction probes using List.reverseRecOn with
  | nil => rfl
  | append_singleton probes last ih =>
    rw [List.foldl_concat, lastProblem?_concat, Probe.enter]
    cases last.problem? with
    | none =>
      rw [Option.none_or, ite_self]
      exact ih
    | some problem =>
      rw [lookup_putEntry, ih, apply_ite (Option.map probeText)]
      exact if_congr eq_comm rfl rfl

/-- No location is told of twice. -/
theorem nodup_entered (probes : List Probe) :
    ((probes.foldl Probe.enter []).map (·.1)).Nodup := by
  induction probes using List.reverseRecOn with
  | nil => exact List.nodup_nil
  | append_singleton probes last ih =>
    rw [List.foldl_concat, Probe.enter]
    split
    · exact nodup_putEntry ih _ _
    · exact ih

namespace ObjectStore

variable {store : ObjectStore τ}

/-- Probes locations one after the other, each in the state that the one before it left. -/
def pings (store : ObjectStore τ) : List Text → τ → List Probe × τ
  | [], state => ([], state)
  | location :: rest, state =>
    let answered := store.ping (.text location) state
    let later := pings store rest answered.2
    (⟨location, answered.1⟩ :: later.1, later.2)

/-- Every location is probed once, in its turn. -/
theorem pings_locations (store : ObjectStore τ) (locations : List Text) (state : τ) :
    (store.pings locations state).1.map Probe.location = locations := by
  induction locations generalizing state with
  | nil => rfl
  | cons location rest ih => rw [pings, List.map_cons, ih]

/-- Probes of all locations settle, in every state. -/
def SettlesProbes (store : ObjectStore τ) : Prop :=
  ∀ location state, ProbeEnds (store.ping (.text location) state).1

/-- Where all probes settle, so do those of a row. -/
theorem SettlesProbes.pings (settles : store.SettlesProbes) (locations : List Text) (state : τ) :
    ∀ probe ∈ (store.pings locations state).1, ProbeEnds probe.result := by
  induction locations generalizing state with
  | nil => exact nofun
  | cons location rest ih =>
    exact List.forall_mem_cons.mpr ⟨settles location state, ih _⟩

/-- All locations are probed, and the failures are put among those so far. -/
theorem probeAll_run (settles : store.SettlesProbes) (locations : List Text)
    (failures : List (Text × Text)) (state : τ) :
    probeAll store failures locations state =
      (.ok ((store.pings locations state).1.foldl Probe.enter failures),
        (store.pings locations state).2) := by
  induction locations generalizing failures state with
  | nil => rfl
  | cons location rest ih =>
    have here := settles location state
    rcases answered : store.ping (.text location) state with ⟨result, between⟩
    rw [answered] at here
    have asked : (store.ping (.text location)).outcome state = (.ok result, between) := by
      rw [Act.outcome_apply, answered]
    rw [probeAll, Act.bind_ok asked, ObjectStore.pings, answered, List.foldl_cons]
    cases here with
    | well => exact ih failures between
    | failed problem cause =>
      exact ih (putEntry failures location (probeText problem)) between

/-- What a row of probes was like, on the way from one state to another, and what is told of it. -/
structure Reports (store : ObjectStore τ) (locations : List Text) (before : τ)
    (probes : List Probe) (failures : List (Text × Text)) (after : τ) : Prop where
  /-- The locations are probed one after the other, and nothing else happens. -/
  probed : store.pings locations before = (probes, after)
  /-- Every location is probed as often as it stands in the row, in order. -/
  order : probes.map Probe.location = locations
  /-- A probe that did not end well ended in a failure of the store. -/
  settled : ∀ probe ∈ probes, ProbeEnds probe.result
  once : (failures.map (·.1)).Nodup
  /-- The locations told of are those that a probe failed for. -/
  keys : ∀ location, location ∈ failures.map (·.1) ↔
    ∃ probe ∈ probes, probe.location = location ∧ probe.result ≠ .ok ()
  /-- Of each, the last failure is told by its kind and its text. -/
  last : ∀ location, failures.lookup location =
    (lastProblem? probes location).map fun problem =>
      (problem.kind.name ++ ": " ++ problem.text : Text)

/-- A store whose probes settle answers for every row of locations. -/
theorem SettlesProbes.reports (settles : store.SettlesProbes) (locations : List Text)
    (before : τ) : ∃ probes failures after,
      unreachableAmong store locations before = (.ok failures, after) ∧
      store.Reports locations before probes failures after := by
  rcases probed : store.pings locations before with ⟨probes, after⟩
  have order := store.pings_locations locations before
  have settled := settles.pings locations before
  have ran := probeAll_run settles locations [] before
  rw [probed] at order settled ran
  refine ⟨probes, _, after, ran, probed, order, settled, nodup_entered probes, fun location => ?_,
    lookup_entered probes⟩
  have told : location ∈ (probes.foldl Probe.enter []).map (·.1) ↔
      ∃ problem, lastProblem? probes location = some problem := by
    rw [mem_keys_iff, lookup_entered]
    simp only [Option.map_eq_some_iff]
    exact ⟨fun ⟨_, problem, found, _⟩ => ⟨problem, found⟩, fun ⟨problem, found⟩ =>
      ⟨_, problem, found, rfl⟩⟩
  rw [told, lastProblem?_isSome_iff]
  exact exists_congr fun probe => and_congr_right fun tried =>
    and_congr_right fun _ => (Probe.failed_iff (settled probe tried)).symm

/-- Nothing is told if every probe ended well. -/
theorem Reports.nothing_iff {locations : List Text} {before after : τ} {probes : List Probe}
    {failures : List (Text × Text)}
    (reports : store.Reports locations before probes failures after) :
    failures = [] ↔ ∀ probe ∈ probes, probe.result = .ok () := by
  rw [← List.map_eq_nil_iff (f := Prod.fst), List.eq_nil_iff_forall_not_mem]
  simp only [reports.keys, not_exists, not_and, not_not]
  exact ⟨fun none probe tried => none _ probe tried rfl, fun all _ probe tried _ => all probe tried⟩

end ObjectStore

/-- An act never ends in an interruption. -/
def Act.Uninterrupted (act : Act τ α) : Prop :=
  ∀ state fault, (act state).1 = .error fault → fault.isInterrupt = false

/-- Making a client and a probe of a bucket answer or fail, in whatever state the service is, and
are not interrupted. -/
structure Remote.Uninterrupted (remote : Remote σ) : Prop where
  build : ∀ options, (remote.build options).Uninterrupted
  headBucket : ∀ client bucket, (remote.headBucket client bucket).Uninterrupted

namespace BucketStore

variable {store : BucketStore σ}

/-- The visit of a probe is not interrupted if the service is not. -/
theorem head_uninterrupted (calm : store.pool.remote.Uninterrupted) (bucket : Text) :
    (store.head bucket).Uninterrupted := by
  intro scene fault failed
  obtain ⟨result, exchanges, between, got, obtains, unfolds⟩ :=
    store.pool.clientWith_unfolds "head_bucket" (.text bucket) scene
  unfold head at failed
  cases result with
  | ok client =>
    rw [Act.bind_ok got] at failed
    exact calm.headBucket client bucket between.remote fault failed
  | error own =>
    rw [Act.bind_error got] at failed
    cases failed
    cases obtains with
    | refused identity =>
      obtain ⟨problem, rfl⟩ := StoreOptions.identityOf_error identity
      rfl
    | unkeyable | missing => rfl
    | failed =>
      -- The one exchange was the making of a client, and its fault is the visit's.
      obtain ⟨_, built, _⟩ := unfolds.dialogue
      exact calm.build _ scene.remote fault (congrArg Prod.fst built)

/-- A probe ends well or in a failure of the store, unless the service is interrupted. -/
theorem ping_settles (calm : store.pool.remote.Uninterrupted) (source : Datum)
    (scene : Scene σ) : ProbeEnds (store.ping source scene).1 := by
  unfold ping
  rw [Scene.tallied_result]
  cases place : source.toBucketLocation with
  | error fault =>
    obtain ⟨problem, rfl⟩ := Datum.toBucketLocation_error place
    exact .failed _ _
  | ok location =>
    rw [Act.bind_ok (Act.ofExcept_apply _ scene)]
    rcases probed : store.head location.authority scene with ⟨result, after⟩
    cases result with
    | ok nothing =>
      rw [Act.bind_ok (Act.caught_ok probed)]
      exact .well
    | error fault =>
      have recoverable := head_uninterrupted calm location.authority scene fault
        (congrArg Prod.fst probed)
      rw [Act.bind_ok (Act.caught_error probed recoverable)]
      exact .failed _ _

end BucketStore

namespace Router

variable {router : Router (Scene σ)}

/-- Behind a router are bucket stores of services that are not interrupted. -/
def ProbesBuckets (router : Router (Scene σ)) : Prop :=
  ∀ scheme name, router.routes.byScheme.lookup scheme = some name →
    ∃ store : BucketStore σ, router.stores name = store.toObjectStore ∧
      store.pool.remote.Uninterrupted

/-- Bucket stores behind a router settle all probes. -/
theorem ProbesBuckets.settlesProbes (buckets : router.ProbesBuckets) :
    router.toObjectStore.SettlesProbes := by
  intro location scene
  change ProbeEnds (router.ping (.text location) scene).1
  unfold ping
  cases routed : router.routes.route (.text location) with
  | error fault =>
    obtain ⟨problem, rfl⟩ := Routes.route_error routed
    exact .failed _ _
  | ok place =>
    obtain ⟨place, name⟩ := place
    obtain ⟨_, served⟩ := Routes.route_ok routed
    obtain ⟨store, behind, calm⟩ := buckets _ name served
    rw [Act.bind_ok (Act.ofExcept_apply _ scene)]
    dsimp only
    rw [behind]
    exact store.ping_settles calm (.location place) scene

end Router

namespace Service

/-- What a service probes: the store, and the locations that its settings want. -/
def plan (service : Service σ) :
    Act (Application σ) (ObjectStore (Scene σ) × List Text) := do
  let store ← service.probedStore
  let (_, settings) ← Application.settings
  let locations ← Act.ofExcept (locationsOf settings)
  return (store, locations)

/-- A service is ready or not by what the probes of its plan find. -/
theorem ready_eq (service : Service σ) : service.ready = (do
    let (store, locations) ← service.plan
    return readyResponse (← Application.onScene (unreachableAmong store locations))) := by
  unfold ready plan
  simp only [bind_assoc, pure_bind]

/-- The plan fixes what the service answers: it probes, and tells of what it found. -/
theorem ready_run {service : Service σ} {store : ObjectStore (Scene σ)} {locations : List Text}
    {application found : Application σ} {failures : List (Text × Text)} {after : Scene σ}
    (planned : service.plan application = (.ok (store, locations), found))
    (ran : unreachableAmong store locations found.scene = (.ok failures, after)) :
    service.ready application =
      (.ok (readyResponse failures), { found with scene := after }) := by
  have onScene : Application.onScene (unreachableAmong store locations) found =
      (.ok failures, { found with scene := after }) := by
    unfold Application.onScene Act.onPart
    rw [ran]
  rw [ready_eq, Act.bind_ok planned]
  dsimp only
  rw [Act.bind_ok onScene]
  rfl

end Service

/-- The response says that the service is ready. -/
def Response.SaysReady (response : Response) : Prop :=
  response.status = 200 ∧ response.body = .json (.table [("status", .text "ready")])

/-- The response says that the service is ready exactly if no location has failed. -/
theorem Service.readyResponse_saysReady_iff {failures : List (Text × Text)} :
    (readyResponse failures).SaysReady ↔ failures = [] := by
  unfold readyResponse Response.SaysReady
  cases failures with
  | nil => exact ⟨fun _ => rfl, fun _ => ⟨rfl, rfl⟩⟩
  | cons first rest =>
    refine ⟨fun ready => ?_, nofun⟩
    have entries := ready.2
    simp only [List.isEmpty_cons, Bool.false_eq_true, ↓reduceIte, ResponseBody.json.injEq,
      Datum.table.injEq, List.cons.injEq, reduceCtorEq, and_false] at entries

/-- Over bucket stores of services that are not interrupted, the probes of any row of locations
come to an end and are told of exactly. Whatever a service over such a router plans to probe, it is
ready exactly if all probes ended well. -/
theorem Router.probes_exactly {router : Router (Scene σ)} (buckets : router.ProbesBuckets) :
    (∀ locations before, ∃ probes failures after,
      unreachableAmong router.toObjectStore locations before = (.ok failures, after) ∧
      router.toObjectStore.Reports locations before probes failures after) ∧
    ∀ (service : Service σ) (application found : Application σ) (locations : List Text),
      service.plan application = (.ok (router.toObjectStore, locations), found) →
      ∃ probes failures after response,
        router.toObjectStore.Reports locations found.scene probes failures after ∧
        service.ready application = (.ok response, { found with scene := after }) ∧
        (response.SaysReady ↔ ∀ probe ∈ probes, probe.result = .ok ()) := by
  refine ⟨buckets.settlesProbes.reports, fun service application found locations planned => ?_⟩
  obtain ⟨probes, failures, after, ran, reports⟩ :=
    buckets.settlesProbes.reports locations found.scene
  exact ⟨probes, failures, after, _, reports, Service.ready_run planned ran,
    Service.readyResponse_saysReady_iff.trans reports.nothing_iff⟩

namespace Router

/-- A service that answers every other probe of a bucket. It makes no client for options with a
region. -/
def flickeringService : Remote Bool where
  now _ := .beginning
  build options :=
    if options.region.truthy then Act.fail (.mishap (.foreign "RuntimeError" "no client"))
    else pure (some ⟨0, true⟩)
  headBucket _ _ up :=
    (if up then .ok () else .error (.transport (.unreachable .null)), !up)
  getObject _ _ _ := pure (.raw .null)
  putObject _ _ _ _ := pure ()
  deleteObjects _ _ _ := pure .null
  close _ := pure ()

theorem flickeringService_uninterrupted : flickeringService.Uninterrupted := by
  constructor
  · intro options up fault failed
    change ((if options.region.truthy then _ else _ : Act Bool (Option Client)) up).1 = _ at failed
    split at failed
    · cases failed
      rfl
    · cases failed
  · intro client bucket up fault failed
    cases up with
    | false =>
      cases failed
      rfl
    | true => cases failed

/-- Settings that want locations to be reached, one of them three times, one with a scheme that
nobody serves and one that is none. -/
def flickeringSettings : Settings where
  endpointUrl := .null
  region := .null
  accessKeyId := .null
  secretAccessKey := .null
  sessionToken := .null
  pathStyle := .bool false
  retryAfter := .null
  bucketOptions := []
  readyLocations := .list [.text "s3://b", .text "nowhere", .text "s3://b", .text "gs://b",
    .text "s3://b"]
  enableMetrics := .bool true
  logLevel := "INFO"

/-- An application that has these settings. -/
def flickeringApplication : Application Bool :=
  { Application.start flickeringService [] none false with
    settings? := some (0, flickeringSettings) }

/-- The store that the application makes for itself, and the router to it. -/
def flickeringStore : BucketStore Bool :=
  ⟨"0", flickeringService, ⟨{ ClientOptions.empty with pathStyle := .bool false }, [], none⟩,
    .parameters⟩

def flickeringRouter : Router (Scene Bool) :=
  Stack.routerTo "0" flickeringStore

def flickeringLocations : List Text :=
  ["s3://b", "nowhere", "s3://b", "gs://b", "s3://b"]

theorem flickeringRouter_probes_exactly :
    flickeringRouter.ProbesBuckets ∧
    ∃ found : Application Bool,
      (Service.mk true flickeringSettings none).plan flickeringApplication =
        (.ok (flickeringRouter.toObjectStore, flickeringLocations), found) ∧
      ∃ probes failures after response,
        flickeringRouter.toObjectStore.Reports flickeringLocations found.scene probes failures
          after ∧
        (Service.mk true flickeringSettings none).ready flickeringApplication =
          (.ok response, { found with scene := after }) ∧
        (response.SaysReady ↔ ∀ probe ∈ probes, probe.result = .ok ()) := by
  have buckets : flickeringRouter.ProbesBuckets :=
    fun _ _ _ => ⟨flickeringStore, rfl, flickeringService_uninterrupted⟩
  obtain ⟨found, planned⟩ : ∃ found,
      (Service.mk true flickeringSettings none).plan flickeringApplication =
        (.ok (flickeringRouter.toObjectStore, flickeringLocations), found) := ⟨_, rfl⟩
  exact ⟨buckets, found, planned, (probes_exactly buckets).2 _ _ _ _ planned⟩

/-- A bucket whose second probe ended well is told of all the same. -/
example : (unreachableAmong flickeringRouter.toObjectStore ["s3://b", "nowhere", "s3://b"]
    (.start false)).1.toOption.map (·.map (·.1)) = some (["s3://b", "nowhere"] : List Text) := by
  decide +kernel

end Router

end ObjectStorage
