import ObjectStorage.Proofs.Boundary.Operations
import ObjectStorage.Proofs.Boundary.Outside
import ObjectStorage.Proofs.Delete.Batch
import ObjectStorage.Proofs.Locations.Places

/-!
# Refusals

A store refuses what is no place for an operation before it touches anything, and it refuses nothing
else in this way. A refusal neither depends on what stands behind the store nor changes it
(`BucketStore.checksFirst`). What a service raises from outside the store does not come out as a
problem of a location.
-/

namespace ObjectStorage

open Text Time

variable {σ α β : Type}

/-- A result that tells of a problem with a location. -/
def IsRefusal (result : Except Fault α) : Prop :=
  ∃ problem cause, result = .error (.storage (.invalidLocation problem) cause)

/-- What a fault tells does not depend on what was asked for. -/
theorem IsRefusal.of_error {fault : Fault} (refused : IsRefusal (.error fault : Except Fault α)) :
    IsRefusal (.error fault : Except Fault β) := by
  obtain ⟨problem, cause, same⟩ := refused
  exact ⟨problem, cause, congrArg Except.error (Except.error.inj same)⟩

/-- What fails outside the store is no refusal of a place. -/
theorem FailsOutside.not_refusal {result : Except Fault α} (outside : FailsOutside result) :
    ¬ IsRefusal result := by
  rintro ⟨problem, cause, refused⟩
  cases outside _ refused

/-- From a state on, no fault that a service raises is a failure of a store. -/
structure Remote.RaisesOutside (remote : Remote σ) (start : σ) : Prop where
  build : ∀ state, remote.Leads start state → ∀ options, FailsOutside (remote.build options state).1
  get : ∀ state, remote.Leads start state →
    ∀ client bucket key, FailsOutside (remote.getObject client bucket key state).1

/-- What is noted of an operation that was refused. -/
def refusalNotes (operation : Operation) : Journal :=
  [.count (.operations operation (.failed .invalidLocation)), .count (.durations operation)]

namespace BucketStore

/-- An operation of stores refuses exactly what is unfit. Then it left some notes and did nothing
else, whatever stands behind the store. -/
structure Refuses (operation : BucketStore σ → Act (Scene σ) α) (store : BucketStore σ)
    (scene : Scene σ) (notes : Journal) (unfit : Prop) : Prop where
  refuses_iff : IsRefusal (operation store scene).1 ↔ unfit
  untouched : unfit → ∃ problem, ∀ other : BucketStore σ, operation other scene =
    (.error (.ofLocation problem), { scene with journal := scene.journal ++ notes })

/-- The operations of a store check their places first. -/
structure ChecksFirst (store : BucketStore σ) (scene : Scene σ) : Prop where
  read : ∀ source : Datum,
    Refuses (·.read source) store scene (refusalNotes .read) source.Objectless
  opened : ∀ source : Datum, Refuses (·.openSink source) store scene [] source.Objectless
  /-- Opening a sink needs nothing but the check. -/
  checkOnly : ∀ source : Datum, store.openSink source = Act.ofExcept
    (source.toObjectLocation.map fun location => ⟨location.text, store.commit location⟩)
  ping : ∀ source : Datum,
    Refuses (·.ping source) store scene (refusalNotes .ping) source.Bucketless
  /-- A single unfit item is enough, wherever it stands. -/
  delete : ∀ (locations : Datum) (items : List Datum), locations.items = .ok items →
    Refuses (·.delete locations) store scene (refusalNotes .delete)
      (∃ item ∈ items, item.Objectless)

variable {store : BucketStore σ} {scene : Scene σ}

/-- An operation that does not accept its place counts that and does nothing else. -/
theorem tallied_refused (operation : Operation) (problem : LocationProblem)
    (rest : α → Act (Scene σ) β) (scene : Scene σ) :
    Scene.tallied operation (Act.ofExcept (.error (.ofLocation problem)) >>= rest) scene =
      (.error (.ofLocation problem),
        { scene with journal := scene.journal ++ refusalNotes operation }) := by
  have noted : scene.journal ++ refusalNotes operation = scene.journal ++
      [.count (.operations operation (.failed .invalidLocation))] ++
        [.count (.durations operation)] := by
    rw [List.append_assoc]
    rfl
  rw [noted]
  rfl

/-- Operations that check a place and then go on without a refusal refuse what the check does. -/
theorem refuses_tallied (operation : Operation) {place : Except Fault α} {unfit : Prop}
    {rest : BucketStore σ → α → Act (Scene σ) β}
    (refused_iff : (∃ fault, place = .error fault) ↔ unfit)
    (told : ∀ fault, place = .error fault → ∃ problem, fault = .ofLocation problem)
    (goes : ∀ answer, place = .ok answer → ¬ IsRefusal (rest store answer scene).1) :
    Refuses (fun other => Scene.tallied operation (Act.ofExcept place >>= rest other)) store scene
      (refusalNotes operation) unfit := by
  cases place with
  | error fault =>
    have isUnfit : unfit := refused_iff.mp ⟨fault, rfl⟩
    obtain ⟨problem, rfl⟩ := told fault rfl
    have ran (other : BucketStore σ) :=
      tallied_refused operation problem (rest other) scene
    refine ⟨⟨fun _ => isUnfit, fun _ => ⟨problem, .nothing, ?_⟩⟩, fun _ => ⟨problem, ran⟩⟩
    rw [ran]
    rfl
  | ok answer =>
    have isFit : ¬ unfit := fun unfit => by
      obtain ⟨fault, refused⟩ := refused_iff.mpr unfit
      cases refused
    rcases ran : rest store answer scene with ⟨result, between⟩
    have calm := goes answer rfl
    rw [ran] at calm
    have acted : (Act.ofExcept (.ok answer) >>= rest store) scene = (result, between) := ran
    obtain ⟨after, counted, _⟩ := Scene.tallied_run operation acted
    refine ⟨⟨fun refusal => ?_, fun unfit => (isFit unfit).elim⟩, fun unfit => (isFit unfit).elim⟩
    rw [counted] at refusal
    exact (calm refusal).elim

/-- What a fault from outside the store is judged to be is no problem of a location. -/
theorem failJudged_not_refusal (context : FailureContext) {fault : Fault}
    (outside : fault.isStorage = false) (scene : Scene σ) :
    ¬ IsRefusal (failJudged (α := α) context fault scene).1 := by
  unfold failJudged
  rw [judge_foreign context outside, Act.bind_apply]
  cases given : Verdict.ofFault context fault with
  | error other =>
    have failed : FailsOutside (.error other : Except Fault α) := by
      rintro _ ⟨⟩
      exact FailsOutside.verdict context fault other given
    exact failed.not_refusal
  | ok verdict =>
    rintro ⟨problem, cause, refused⟩
    have same : verdict.problem = .invalidLocation problem :=
      (Fault.storage.inj (Except.error.inj refused)).1
    rcases (Verdict.ofFault_ok given).2 with ⟨_, resumeAt, throttled⟩ | ⟨_, fatal⟩
    · cases throttled.symm.trans same
    · cases fatal.symm.trans same

/-- A guarded fault from outside the store is not told as a problem of a location. -/
theorem guarded_not_refusal (message : Text) {act : Act (Scene σ) α}
    (outside : FailsOutside (act scene).1) :
    ¬ IsRefusal (store.guarded message act scene).1 := by
  rcases ran : act scene with ⟨result, after⟩
  rw [ran] at outside
  cases result with
  | ok answer =>
    rw [store.guarded_ok ran]
    exact (FailsOutside.ok answer).not_refusal
  | error fault =>
    by_cases interrupts : fault.isInterrupt = true
    · rw [store.guarded_interrupted ran interrupts]
      rintro ⟨problem, cause, refused⟩
      cases refused
      cases outside _ rfl
    · rw [store.guarded_judged ran (by simpa using interrupts)]
      exact failJudged_not_refusal _ (outside fault rfl) after

/-- A read that fails at the service does not blame its location. -/
theorem fetch_outside (raises : store.pool.remote.RaisesOutside scene.remote) {location : Location}
    (named : location.needAuthority = .ok location.authority) :
    FailsOutside (store.fetch location scene).1 := by
  obtain ⟨client, exchanges, opened, got, obtains, unfolds⟩ :=
    store.pool.clientWith_unfolds "get_object" (.location location) scene
  unfold fetch
  cases client with
  | error fault =>
    rw [Act.bind_error got]
    rintro _ ⟨⟩
    cases obtains with
    | refused identity => cases (identityOf_location named).symm.trans identity
    | unkeyable identity changes => rfl
    | missing identity => rfl
    | @failed options _ identity =>
      obtain ⟨between, happens, _⟩ := unfolds.dialogue
      exact raises.build _ .here options fault (congrArg Prod.fst happens)
  | ok client =>
    rw [Act.bind_ok got]
    exact raises.get _ (Remote.Leads.here.dialogue unfolds.dialogue) client _ _

/-- A reply without a body is a fault from outside. -/
theorem bodyOf_outside (reply : Reply) : FailsOutside (bodyOf reply) := by
  unfold bodyOf
  split
  · exact .ok _
  · split
    · exact .ok _
    · exact .mishap _
  · exact .mishap _

/-- A read refuses exactly what is no place of an object, and all that happens then is that the
refusal is counted. -/
theorem read_refuses (raises : store.pool.remote.RaisesOutside scene.remote) (source : Datum) :
    Refuses (·.read source) store scene (refusalNotes .read) source.Objectless := by
  apply refuses_tallied .read Datum.toObjectLocation_error_iff
    fun fault refused => Datum.toObjectLocation_error refused
  intro location fit
  have named := (Datum.toObjectLocation_ok fit).2.2.1
  have calm := store.guarded_not_refusal ("Failed to read " ++ location.text)
    (fetch_outside raises named)
  rcases ran : store.guarded ("Failed to read " ++ location.text) (store.fetch location) scene with
    ⟨result, after⟩
  rw [ran] at calm
  cases result with
  | error fault =>
    rw [Act.bind_error ran]
    exact fun refused => calm refused.of_error
  | ok reply =>
    rw [Act.bind_ok ran]
    exact (bodyOf_outside reply).not_refusal

/-- A probe tells of all that goes wrong in its own words. -/
theorem ping_refuses (source : Datum) :
    Refuses (·.ping source) store scene (refusalNotes .ping) source.Bucketless := by
  apply refuses_tallied .ping Datum.toBucketLocation_error_iff
    fun fault refused => Datum.toBucketLocation_error refused
  rintro location _ ⟨problem, cause, refused⟩
  rcases ran : store.head location.authority scene with ⟨result, after⟩
  cases result with
  | ok nothing =>
    rw [Act.bind_ok (Act.caught_ok ran)] at refused
    cases refused
  | error fault =>
    by_cases interrupts : fault.isInterrupt = true
    · rw [Act.bind_error (Act.caught_interrupt ran interrupts)] at refused
      cases refused
      cases interrupts
    · rw [Act.bind_ok (Act.caught_error ran (by simpa using interrupts))] at refused
      cases refused

/-- Going bucket by bucket, failures of the store are collected and not raised. -/
theorem deleteGroups_outside (groups : List (Text × List Text)) (scene : Scene σ) :
    FailsOutside (store.deleteGroups groups scene).1 := by
  induction groups generalizing scene with
  | nil => exact .ok _
  | cons group rest ih =>
    obtain ⟨bucket, keys⟩ := group
    rcases tried : store.deleteFrom bucket keys scene with ⟨result, between⟩
    cases result with
    | ok nothing =>
      rw [store.deleteGroups_ok tried]
      exact ih between
    | error fault =>
      rcases fault.isStorage_cases with ⟨problem, cause, rfl⟩ | foreign
      · obtain ⟨logged, _, goes⟩ := store.deleteGroups_failed tried
        rw [goes]
        rcases later : store.deleteGroups rest logged with ⟨others, after⟩
        have outside := ih logged
        rw [later] at outside
        cases others with
        | ok failures =>
          rw [Act.bind_ok later]
          exact .ok _
        | error fault =>
          rw [Act.bind_error later]
          rintro _ ⟨⟩
          exact outside fault rfl
      · rw [store.deleteGroups_stopped foreign tried]
        rintro _ ⟨⟩
        exact foreign

/-- A delete refuses exactly those lists in which some item is no place of an object. -/
theorem delete_refuses {locations : Datum} {items : List Datum}
    (listed : locations.items = .ok items) :
    Refuses (·.delete locations) store scene (refusalNotes .delete)
      (∃ item ∈ items, item.Objectless) := by
  have refused_iff : (∃ fault, items.mapM Datum.toObjectLocation = .error fault) ↔
      ∃ item ∈ items, item.Objectless := by
    rw [Except.mapM_error_iff]
    exact exists_congr fun item => and_congr_right fun _ => Datum.toObjectLocation_error_iff
  have told : ∀ fault, items.mapM Datum.toObjectLocation = .error fault →
      ∃ problem, fault = .ofLocation problem := by
    intro fault refused
    obtain ⟨item, _, unfit⟩ := Except.mapM_error refused
    exact Datum.toObjectLocation_error unfit
  simp only [delete_listed _ listed]
  apply refuses_tallied .delete refused_iff told
  intro parsed _
  rcases ran : store.deleteGroups (keysByBucket parsed) scene with ⟨result, after⟩
  have outside := store.deleteGroups_outside (keysByBucket parsed) scene
  rw [ran] at outside
  cases result with
  | error fault =>
    rw [Act.bind_error ran]
    exact fun refused => outside.not_refusal refused.of_error
  | ok failures =>
    rw [Act.bind_ok ran]
    rintro ⟨problem, cause, refused⟩
    split at refused
    · cases refused
    · cases refused

/-- To open a sink is refused exactly at what is no place of an object, and nothing happens then. -/
theorem openSink_refuses (source : Datum) :
    Refuses (·.openSink source) store scene [] source.Objectless := by
  have unmoved : { scene with journal := scene.journal ++ [] } = scene := by
    rw [List.append_nil]
  constructor
  · rw [← Datum.toObjectLocation_error_iff]
    rw [openSink_eq]
    cases fit : source.toObjectLocation with
    | error fault =>
      obtain ⟨problem, rfl⟩ := Datum.toObjectLocation_error fit
      exact ⟨fun _ => ⟨_, rfl⟩, fun _ => ⟨problem, .nothing, rfl⟩⟩
    | ok location => exact ⟨nofun, nofun⟩
  · intro objectless
    obtain ⟨fault, refused⟩ := Datum.toObjectLocation_error_iff.mpr objectless
    obtain ⟨problem, rfl⟩ := Datum.toObjectLocation_error refused
    refine ⟨problem, fun other => ?_⟩
    rw [unmoved, openSink_eq, refused]
    rfl

/-- In front of a service whose faults are no failures of a store, a store checks its places
first. -/
theorem checksFirst (raises : store.pool.remote.RaisesOutside scene.remote) :
    store.ChecksFirst scene where
  read := store.read_refuses raises
  opened := store.openSink_refuses
  checkOnly := store.openSink_eq
  ping := store.ping_refuses
  delete _ _ listed := delete_refuses listed

/-- A service that answers no request. -/
def silentService : Remote Unit where
  now _ := .beginning
  build _ := pure (some ⟨0, true⟩)
  headBucket _ _ := Act.fail (.transport (.unreachable .null))
  getObject _ _ _ := Act.fail (.transport (.unreachable .null))
  putObject _ _ _ _ := Act.fail (.transport (.unreachable .null))
  deleteObjects _ _ _ := Act.fail (.transport (.unreachable .null))
  close _ := pure ()

/-- A store in front of it. -/
def silentStore : BucketStore Unit :=
  ⟨"pool", silentService, ⟨.empty, [], none⟩, .options⟩

/-- The silent service never raises a failure of the store's own. -/
theorem silentService_raisesOutside : silentService.RaisesOutside () := by
  constructor
  · exact fun _ _ _ => .ok _
  · rintro _ _ _ _ _ _ ⟨⟩
    rfl

theorem silentStore_checksFirst :
    silentStore.pool.remote.RaisesOutside (Scene.start ()).remote ∧
      silentStore.ChecksFirst (.start ()) :=
  ⟨silentService_raisesOutside, checksFirst silentService_raisesOutside⟩

end BucketStore

end ObjectStorage
