import ObjectStorage.Proofs.Delete.KeyErrors
import ObjectStorage.Proofs.Delete.Steady
import ObjectStorage.Proofs.Routing.Merging

/-!
# Batch deletes of the same places

With a steady service, what a batch delete does depends only on the places of its locations: in
which order they stand, how often, and how they are spelled has no part in it
(`BucketStore.delete_converges`). The groups and pieces of two such batches may differ altogether;
they agree since the objects that are left and the buckets that fail are told without them
(`BucketStore.delete_steady`).
-/

namespace ObjectStorage

open Text Time

variable {σ : Type}

/-- A datum lists locations of objects. -/
def Datum.Lists (source : Datum) (parsed : List Location) : Prop :=
  (source.items >>= fun items => items.mapM Datum.toObjectLocation) = .ok parsed

/-- Locations are at the same places, in whatever order and number. -/
def Location.SamePlaces (parsed others : List Location) : Prop :=
  ∀ place, place ∈ parsed.map Location.place ↔ place ∈ others.map Location.place

/-- The latest of some instants depends only on which instants there are. -/
theorem latest?_congr {hints others : List Instant} (same : ∀ hint, hint ∈ hints ↔ hint ∈ others) :
    latest? hints = latest? others :=
  Option.ext fun latest => by simp only [latest?_eq_some_iff, same]

/-- The kind of a batch depends only on whether anything failed, and on whether all of that is
throttled. -/
theorem StorageProblem.kind_batchDelete_congr {failures others : List (Text × Fault)}
    (empty : failures = [] ↔ others = [])
    (throttled : (∀ failure ∈ failures, failure.2.isThrottled = true) ↔
      ∀ other ∈ others, other.2.isThrottled = true) :
    (StorageProblem.batchDelete failures).kind = (StorageProblem.batchDelete others).kind := by
  have same : (StorageProblem.batchDelete failures).kind = .throttled ↔
      (StorageProblem.batchDelete others).kind = .throttled := by
    rw [kind_batchDelete_iff, kind_batchDelete_iff, throttled, ne_eq, empty]
  have either (batch : List (Text × Fault)) : (StorageProblem.batchDelete batch).kind = .throttled ∨
      (StorageProblem.batchDelete batch).kind = .fatal := by
    simp only [kind]
    split
    · exact .inl rfl
    · exact .inr rfl
  rcases either failures with slow | fatal
  · rw [slow, same.mp slow]
  · rcases either others with otherSlow | otherFatal
    · rw [otherSlow, same.mpr otherSlow]
    · rw [fatal, otherFatal]

namespace BucketStore

variable {store : BucketStore σ} {objects : σ → Objects} {habits : Habits}
  {start scene after : Scene σ} {parsed others : List Location}
  {failures otherFailures : List (Text × Fault)}

/-- How a delete of locations ends with a steady service. The buckets that fail are those of the
locations in which something goes wrong; the objects at the locations in all others are gone. -/
structure EndsSteadily (store : BucketStore σ) (objects : σ → Objects) (habits : Habits)
    (start scene : Scene σ) (parsed : List Location) (failures : List (Text × Fault))
    (after : Scene σ) : Prop where
  along : store.Along habits start after
  removed : objects after.remote = (objects scene.remote).without fun place =>
    parsed.any fun location => location.place == place &&
      (store.fails? habits (start.pools store.pool.name) location.authority).isNone
  buckets : failures.map (·.1) = (parsed.map Location.authority).eraseDups.filter fun bucket =>
    (store.fails? habits (start.pools store.pool.name) bucket).isSome
  recorded : ∀ failure ∈ failures, ∃ fault,
    store.fails? habits (start.pools store.pool.name) failure.1 = some fault ∧
      store.Records start.remote failure.1 fault failure.2

/-- A delete in front of a steady service ends as the habits of the service say. -/
theorem delete_steady (steady : store.Steady objects habits start.remote)
    (along : store.Along habits start scene) {locations : Datum} (lists : locations.Lists parsed) :
    ∃ failures after, store.delete locations scene = (batchEnd failures, after) ∧
      store.EndsSteadily objects habits start scene parsed failures after := by
  obtain ⟨items, listed, fit⟩ := Except.bind_ok lists
  have filled : ∀ group ∈ keysByBucket parsed, group.2 ≠ [] := by
    rintro ⟨bucket, keys⟩ inside
    obtain ⟨⟨location, known, own⟩, rfl⟩ := mem_keysByBucket inside
    exact List.ne_nil_of_mem (List.mem_map_of_mem (List.mem_filter.mpr ⟨known, by simp [own]⟩))
  obtain ⟨failures, between, ran, along, removed, buckets, recorded⟩ :=
    deleteGroups_steady steady along filled
  obtain ⟨counters, ended⟩ := store.delete_parsed listed fit ran
  refine ⟨failures, _, ended, along.moved along.led _, ?_, ?_, recorded⟩
  · dsimp only
    rw [removed]
    congr 1
    funext place
    exact any_keysByBucket (fun bucket =>
      (store.fails? habits (start.pools store.pool.name) bucket).isNone) parsed place
  · rw [buckets, map_fst_keysByBucket]

namespace EndsSteadily

/-- No bucket has two failures. -/
theorem nodup (ends : store.EndsSteadily objects habits start scene parsed failures after) :
    (failures.map (·.1)).Nodup := by
  rw [ends.buckets]
  exact (nodup_eraseDups _).filter _

/-- The buckets that fail are those of the places in which something goes wrong. -/
theorem mem_buckets (ends : store.EndsSteadily objects habits start scene parsed failures after)
    {bucket : Text} : bucket ∈ failures.map (·.1) ↔
      (∃ key, (bucket, key) ∈ parsed.map Location.place) ∧
        (store.fails? habits (start.pools store.pool.name) bucket).isSome = true := by
  rw [ends.buckets, List.mem_filter, List.mem_eraseDups]
  apply and_congr_left'
  constructor
  · intro known
    obtain ⟨location, inside, rfl⟩ := List.mem_map.mp known
    exact ⟨_, List.mem_map_of_mem inside⟩
  · rintro ⟨key, known⟩
    obtain ⟨location, inside, same⟩ := List.mem_map.mp known
    exact List.mem_map.mpr ⟨location, inside, congrArg Prod.fst same⟩

/-- An object is gone if it was at a location whose bucket did not fail. -/
theorem objects_after (ends : store.EndsSteadily objects habits start scene parsed failures after)
    (place : Text × Text) : objects after.remote place =
      if place ∈ parsed.map Location.place ∧ place.1 ∉ failures.map (·.1) then none
      else objects scene.remote place := by
  rw [ends.removed]
  unfold Objects.without
  apply if_congr ?_ rfl rfl
  rw [List.any_eq_true, ends.mem_buckets]
  constructor
  · rintro ⟨location, inside, gone⟩
    rw [Bool.and_eq_true, beq_iff_eq, Option.isNone_iff_eq_none] at gone
    obtain ⟨rfl, calm⟩ := gone
    exact ⟨List.mem_map_of_mem inside, fun failed => by
      rw [show store.fails? habits _ location.place.1 = none from calm] at failed
      cases failed.2⟩
  · rintro ⟨known, unfailed⟩
    obtain ⟨location, inside, rfl⟩ := List.mem_map.mp known
    refine ⟨location, inside, ?_⟩
    rw [beq_self_eq_true, Bool.true_and, Option.isNone_iff_eq_none, ← Option.not_isSome_iff_eq_none]
    exact fun some => unfailed ⟨⟨_, known⟩, some⟩

/-- The failure of a bucket is throttled if the fault slows down that goes wrong there. -/
theorem throttled (ends : store.EndsSteadily objects habits start scene parsed failures after) :
    (∀ failure ∈ failures, failure.2.isThrottled = true) ↔ ∀ bucket ∈ failures.map (·.1),
      (store.fails? habits (start.pools store.pool.name) bucket).any Fault.slows = true := by
  rw [List.forall_mem_map]
  refine forall₂_congr fun failure inside => ?_
  obtain ⟨fault, fails, state, led, recorded⟩ := ends.recorded failure inside
  rw [fails, Option.any_some, store.failureAt_isThrottled recorded]

variable {otherScene otherAfter : Scene σ}
  (ends : store.EndsSteadily objects habits start scene parsed failures after)
  (otherEnds : store.EndsSteadily objects habits start otherScene others otherFailures otherAfter)
  (same : Location.SamePlaces parsed others)
include ends otherEnds same

/-- Two deletes of the same places tell of failures in the same buckets. -/
theorem buckets_iff (bucket : Text) :
    bucket ∈ failures.map (·.1) ↔ bucket ∈ otherFailures.map (·.1) := by
  rw [ends.mem_buckets, otherEnds.mem_buckets]
  exact and_congr_left' (exists_congr fun key => same (bucket, key))

/-- While the clock stands still, a failure is the same in both batches. -/
theorem mem_of_mem (still : ∀ state, store.pool.remote.Leads start.remote state →
      store.pool.remote.now state = store.pool.remote.now start.remote)
    {failure : Text × Fault} (inside : failure ∈ failures) : failure ∈ otherFailures := by
  obtain ⟨other, otherInside, bucket⟩ := List.mem_map.mp
    ((ends.buckets_iff otherEnds same failure.1).mp (List.mem_map_of_mem inside))
  obtain ⟨fault, fails, state, led, recorded⟩ := ends.recorded failure inside
  obtain ⟨_, otherFails, otherState, otherLed, otherRecorded⟩ := otherEnds.recorded other otherInside
  rw [bucket] at otherFails otherRecorded
  cases fails.symm.trans otherFails
  rw [still state led] at recorded
  rw [still otherState otherLed] at otherRecorded
  have failure_eq : other = failure :=
    Prod.ext bucket (Except.ok.inj (otherRecorded.symm.trans recorded))
  exact failure_eq ▸ otherInside

end EndsSteadily

/-- How two batch deletes end that start in one scene with locations at the same places. -/
structure Converge (store : BucketStore σ) (objects : σ → Objects) (habits : Habits)
    (start : Scene σ) (parsed : List Location) (failures otherFailures : List (Text × Fault))
    (after otherAfter : Scene σ) : Prop where
  /-- The objects at the places are gone but for those in buckets that failed, and all others are
  left. -/
  removed : ∀ place, objects after.remote place =
    if place ∈ parsed.map Location.place ∧ place.1 ∉ failures.map (·.1) then none
    else objects start.remote place
  /-- The buckets that failed are those of the places in which something goes wrong each time. -/
  failed : ∀ bucket, bucket ∈ failures.map (·.1) ↔
    (∃ key, (bucket, key) ∈ parsed.map Location.place) ∧
      (store.fails? habits (start.pools store.pool.name) bucket).isSome = true
  /-- Both leave the same objects. -/
  left : objects otherAfter.remote = objects after.remote
  /-- Both raise, or neither does. -/
  raises : batchEnd failures = .ok () ↔ batchEnd otherFailures = .ok ()
  /-- They name the same buckets, each once. -/
  buckets : (failures.map (·.1)).Perm (otherFailures.map (·.1))
  distinct : (failures.map (·.1)).Nodup
  /-- They are of the same kind. -/
  kind : (StorageProblem.batchDelete failures).kind =
    (StorageProblem.batchDelete otherFailures).kind
  /-- At one instant, they give the same one for the next try. -/
  resumeAt : (∀ state, store.pool.remote.Leads start.remote state →
      store.pool.remote.now state = store.pool.remote.now start.remote) →
    (StorageProblem.batchDelete failures).resumeAt? =
      (StorageProblem.batchDelete otherFailures).resumeAt?
  /-- Deleting any of the places again changes no object. -/
  repeated : ∀ (again : Datum) (named : List Location), again.Lists named →
    (∀ place ∈ named.map Location.place, place ∈ parsed.map Location.place) →
      objects (store.delete again after).2.remote = objects after.remote

/-- What a batch delete does with a steady service depends only on the places of its locations. -/
theorem delete_converges (steady : store.Steady objects habits scene.remote)
    (reached : store.pool.Reachable scene) {locations spelled : Datum}
    (lists : locations.Lists parsed) (otherLists : spelled.Lists others)
    (same : Location.SamePlaces parsed others) :
    ∃ failures otherFailures after otherAfter,
      store.delete locations scene = (batchEnd failures, after) ∧
      store.delete spelled scene = (batchEnd otherFailures, otherAfter) ∧
      store.Converge objects habits scene parsed failures otherFailures after otherAfter := by
  have here : store.Along habits scene scene := .here reached.tidy
  obtain ⟨failures, after, ran, ends⟩ := delete_steady steady here lists
  obtain ⟨otherFailures, otherAfter, otherRan, otherEnds⟩ := delete_steady steady here otherLists
  have buckets := ends.buckets_iff otherEnds same
  have perm : (failures.map (·.1)).Perm (otherFailures.map (·.1)) :=
    (List.perm_ext_iff_of_nodup ends.nodup otherEnds.nodup).mpr buckets
  have empty : failures = [] ↔ otherFailures = [] := by
    rw [← List.map_eq_nil_iff (f := (·.1)), ← List.map_eq_nil_iff (f := (·.1)) (l := otherFailures)]
    exact ⟨fun none => (none ▸ perm).nil_eq.symm, fun none => (none ▸ perm).eq_nil⟩
  refine ⟨failures, otherFailures, after, otherAfter, ran, otherRan, {
    removed := ends.objects_after
    failed := fun _ => ends.mem_buckets
    left := ?_
    raises := by rw [batchEnd_ok_iff, batchEnd_ok_iff, empty]
    buckets := perm
    distinct := ends.nodup
    kind := StorageProblem.kind_batchDelete_congr empty ?_
    resumeAt := ?_
    repeated := ?_ }⟩
  · funext place
    rw [ends.objects_after, otherEnds.objects_after]
    exact if_congr (and_congr (same place).symm (not_congr (buckets place.1).symm)) rfl rfl
  · rw [ends.throttled, otherEnds.throttled]
    exact forall_congr' fun bucket => imp_congr (buckets bucket) Iff.rfl
  · intro still
    have shared (failure : Text × Fault) : failure ∈ failures ↔ failure ∈ otherFailures :=
      ⟨ends.mem_of_mem otherEnds same still,
        otherEnds.mem_of_mem ends (fun place => (same place).symm) still⟩
    apply latest?_congr
    intro hint
    simp only [List.mem_filterMap, shared]
  · intro again named relists inside
    obtain ⟨laterFailures, last, laterRan, laterEnds⟩ := delete_steady steady ends.along relists
    rw [laterRan]
    funext place
    rw [laterEnds.objects_after]
    split
    · next gone =>
      rw [ends.objects_after, if_pos]
      refine ⟨inside place gone.1, fun failed => gone.2 ?_⟩
      exact laterEnds.mem_buckets.mpr ⟨⟨place.2, gone.1⟩, (ends.mem_buckets.mp failed).2⟩
    · rfl

/-- Options with a region. -/
def distantOptions : ClientOptions :=
  { ClientOptions.empty with region := .text "r" }

/-- What goes wrong each time with a service that is out of order: no client is made for distant
options, and deletes in the bucket `slow` are asked to slow down. -/
def brokenHabits : Habits where
  unmade? key :=
    if key = distantOptions.key then some (.mishap (.foreign "RuntimeError" "no client")) else none
  undeleted? bucket := if bucket = "slow" then some overload else none

/-- A service that does as services do where nothing goes wrong. Its states are its objects. -/
def brokenService : Remote Objects where
  now _ := .beginning
  build options :=
    match brokenHabits.unmade? options.key with
    | some fault => Act.fail fault
    | none => pure (some ⟨0, true⟩)
  headBucket _ _ := pure ()
  getObject _ _ _ := pure (.raw .null)
  putObject _ bucket key body := Act.modify fun objects => objects.set (bucket, key) body
  deleteObjects _ bucket keys :=
    match brokenHabits.undeleted? bucket with
    | some fault => Act.fail fault
    | none => do
      Act.modify fun objects =>
        objects.without fun place => place.1 == bucket && keys.contains place.2
      return .null
  close _ := pure ()

/-- A store of the service, in which one bucket has distant options. -/
def brokenStore : BucketStore Objects :=
  ⟨"pool", brokenService, ⟨.empty, [("distant", distantOptions)], none⟩, .options⟩

/-- The broken service has the broken habits, whatever objects it starts with. -/
theorem brokenStore_steady (start : Objects) : brokenStore.Steady id brokenHabits start where
  building state options _ := by
    change (brokenService.build options state).2 = state
    unfold brokenService
    dsimp only
    cases brokenHabits.unmade? options.key <;> rfl
  built state options _ makeable := by
    refine ⟨⟨0, true⟩, ?_⟩
    change (brokenService.build options state).1 = _
    unfold brokenService
    simp only [makeable, Act.pure_apply]
  unbuilt state options fault _ unmade := by
    have mishap : some (.mishap (.foreign "RuntimeError" "no client")) = some fault :=
      (Option.ite_none_right_eq_some.mp unmade).2
    refine ⟨?_, Option.some.inj mishap ▸ Fault.judgeable_mishap rfl ..⟩
    change (brokenService.build options state).1 = _
    unfold brokenService
    simp only [unmade, Act.fail_apply]
  deleted state client bucket keys _ goes := by
    have answers : brokenService.deleteObjects client bucket keys state = (.ok .null,
        state.without fun place => place.1 == bucket && keys.contains place.2) := by
      unfold brokenService
      simp only [goes]
      rfl
    change (∃ response, (brokenService.deleteObjects client bucket keys state).1 = _ ∧ _) ∧
      (brokenService.deleteObjects client bucket keys state).2 = _
    rw [answers]
    exact ⟨⟨.null, rfl, rfl⟩, rfl⟩
  undeleted state client bucket keys fault _ fails := by
    have raises : brokenService.deleteObjects client bucket keys state = (.error fault, state) := by
      unfold brokenService
      simp only [fails, Act.fail_apply]
    have slow : some overload = some fault := (Option.ite_none_right_eq_some.mp fails).2
    change (brokenService.deleteObjects client bucket keys state).1 = _ ∧
      _ ∧ (brokenService.deleteObjects client bucket keys state).2 = _
    rw [raises]
    exact ⟨rfl, Option.some.inj slow ▸ overload_judgeable, rfl⟩

/-- Locations in a bucket of each sort, one of them twice. -/
def mixedLocations : Datum :=
  .list [.text "s3://slow/a", .text "s3://fine/b", .text "s3://distant/c", .text "s3://fine/b"]

/-- The same places in another order and in other schemes. -/
def respelledLocations : Datum :=
  .list [.text "S3N://distant/c", .text "s3a://fine/b", .text "s3://slow/a", .text "s3a://slow/a"]

/-- What the locations read as. -/
def mixedPlaces : List Location :=
  [⟨"s3", "slow", "/a"⟩, ⟨"s3", "fine", "/b"⟩, ⟨"s3", "distant", "/c"⟩, ⟨"s3", "fine", "/b"⟩]

/-- What the others read as. -/
def respelledPlaces : List Location :=
  [⟨"s3n", "distant", "/c"⟩, ⟨"s3a", "fine", "/b"⟩, ⟨"s3", "slow", "/a"⟩, ⟨"s3a", "slow", "/a"⟩]

theorem mixedPlaces_same : Location.SamePlaces mixedPlaces respelledPlaces := by
  let a : Text × Text := ("slow", "a")
  let b : Text × Text := ("fine", "b")
  let c : Text × Text := ("distant", "c")
  have own : mixedPlaces.map Location.place = [a, b, c, b] := by decide
  have other : respelledPlaces.map Location.place = [c, b, a, a] := by decide
  intro place
  rw [own, other]
  clear_value a b c
  simp only [List.mem_cons, List.not_mem_nil, or_false]
  tauto

theorem brokenStore_delete_converges :
    brokenStore.Steady id brokenHabits (fun _ => some []) ∧
    brokenStore.pool.Reachable (.start fun _ => some []) ∧
    mixedLocations.Lists mixedPlaces ∧ respelledLocations.Lists respelledPlaces ∧
    Location.SamePlaces mixedPlaces respelledPlaces ∧
    ∃ failures otherFailures after otherAfter,
      brokenStore.delete mixedLocations (.start fun _ => some []) = (batchEnd failures, after) ∧
      brokenStore.delete respelledLocations (.start fun _ => some []) =
        (batchEnd otherFailures, otherAfter) ∧
      brokenStore.Converge id brokenHabits (.start fun _ => some []) mixedPlaces failures
        otherFailures after otherAfter :=
  ⟨brokenStore_steady _, .unused rfl, rfl, rfl, mixedPlaces_same,
    delete_converges (brokenStore_steady _) (.unused rfl) rfl rfl mixedPlaces_same⟩

end BucketStore

end ObjectStorage
