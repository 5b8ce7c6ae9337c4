import ObjectStorage.Proofs.Boundary.Refusals
import ObjectStorage.Proofs.Routing.Merging
import ObjectStorage.Proofs.Routing.Screening

/-!
# Names of failures

A batch delete by several stores names what failed by the scheme of each store's first location and
the bucket that failed there. A store may serve several schemes, so this names a location that was
asked for exactly if the failed bucket is in one of the store's locations with that first scheme
(`Router.delete_named_iff`).
-/

namespace ObjectStorage

open Text

variable {σ τ : Type}

namespace BucketStore

variable {store : BucketStore σ}

/-- The failures of a batch are for some of its groups, in order. -/
theorem deleteGroups_keys {groups : List (Text × List Text)} {failures : List (Text × Fault)}
    {before after : Scene σ} (ran : store.deleteGroups groups before = (.ok failures, after)) :
    (failures.map (·.1)).Sublist (groups.map (·.1)) := by
  induction groups generalizing failures before after with
  | nil =>
    cases ran
    exact .slnil
  | cons group rest ih =>
    rcases store.deleteGroups_ran ran with ⟨_, _, later⟩ | ⟨_, _, _, _, _, rfl, later, _⟩
    · exact (ih later).cons _
    · exact (ih later).cons_cons _

/-- A delete of locations that can be served fails with a batch of some of their buckets, or for a
reason outside the store. -/
theorem delete_fit {locations : Datum} {items : List Datum} {parsed : List Location}
    (listed : locations.items = .ok items) (fit : items.mapM Datum.toObjectLocation = .ok parsed)
    (scene : Scene σ) :
    FailsOutside (store.delete locations scene).1 ∨
      ∃ batch, (store.delete locations scene).1 = .error (.storage (.batchDelete batch) .nothing) ∧
        batch ≠ [] ∧ (batch.map (·.1)).Sublist (parsed.map Location.authority).eraseDups := by
  have keys : (keysByBucket parsed).map (·.1) = (parsed.map Location.authority).eraseDups := by
    rw [keysByBucket_eq, List.map_map]
    exact List.map_id _
  have outside := store.deleteGroups_outside (keysByBucket parsed) scene
  rcases ran : store.deleteGroups (keysByBucket parsed) scene with ⟨result, between⟩
  rw [ran] at outside
  obtain ⟨_, ended⟩ := store.delete_parsed listed fit ran
  rw [ended]
  cases result with
  | error fault =>
    left
    rintro _ ⟨⟩
    exact outside fault rfl
  | ok failures =>
    cases failures with
    | nil => exact .inl (.ok _)
    | cons first others =>
      exact .inr ⟨_, rfl, List.cons_ne_nil _ _, keys ▸ deleteGroups_keys ran⟩

end BucketStore

namespace Router

variable {router : Router τ}

/-- Every turn is a delete by its store. -/
theorem turns_ran {groups : List (Text × List Location)} {state : τ} {turn : Turn}
    (tried : turn ∈ (router.turns groups state).1) :
    ∃ before after, router.deleteAt turn.store turn.members before = (turn.result, after) := by
  induction groups generalizing state with
  | nil => cases tried
  | cons group rest ih =>
    obtain ⟨store, members⟩ := group
    rcases answered : router.deleteAt store members state with ⟨result, between⟩
    rw [router.turns_cons answered] at tried
    rcases List.mem_cons.mp tried with rfl | later
    · exact ⟨state, between, answered⟩
    · exact ih later

/-- A batch delete by several stores fails with a batch only if all stores had their turn. -/
theorem delete_batch_settles {locations : Datum} {items : List Datum}
    {routed : List (Location × Text)} (listed : locations.items = .ok items)
    (accepted : items.mapM router.routes.routeObject = .ok routed)
    (together : (involved routed).length ≠ 1) {state : τ} {failures : List (Text × Fault)}
    {cause : Cause}
    (failed : (router.delete locations state).1 = .error (.storage (.batchDelete failures) cause)) :
    ∀ turn ∈ (router.turns (portions routed) state).1, turn.Settles := by
  by_contra unsettled
  obtain ⟨turn, _, halts, fault, after, result, stopped⟩ :=
    deleteGroups_stops (portions routed) [] unsettled
  rw [delete_accepted listed accepted] at failed
  split at failed
  · next single =>
    have one := congrArg List.length single
    rw [portions, List.length_map] at one
    exact together one
  · rw [Act.bind_error stopped] at failed
    cases failed
    unfold Turn.Settles at halts
    rw [result] at halts
    exact halts trivial

end Router

/-- A location given to a bucket store is looked for where it says. -/
theorem Location.mapM_toObjectLocation {members parsed : List Location}
    (fit : (members.map Datum.location).mapM Datum.toObjectLocation = .ok parsed) :
    parsed = members := by
  have own : (members.map Datum.location).mapM Datum.toObjectLocation = .ok members := by
    apply Except.mapM_map_of_forall
    intro location inside
    obtain ⟨place, _, fits⟩ := Except.mapM_ok_of_mem fit (List.mem_map_of_mem inside)
    cases (Datum.toObjectLocation_ok fits).1
    exact fits
  exact Except.ok.inj (fit.symm.trans own)

/-- What failed in a turn has targets that are buckets of its locations. -/
def Turn.Targeted (turn : Turn) : Prop :=
  ∀ failure ∈ turn.failures, ∃ location ∈ turn.members, location.authority = failure.1

/-- What failed in a turn is named as one of its locations. -/
def Turn.WellNamed (turn : Turn) : Prop :=
  ∀ failure ∈ turn.failures, ∃ location ∈ turn.members,
    location.scheme = leadScheme turn.members ∧ location.authority = failure.1

/-- A turn that settles did not end in a refusal. -/
theorem Turn.Settles.not_refusal {turn : Turn} (settles : turn.Settles) :
    ¬ IsRefusal turn.result := by
  rintro ⟨problem, cause, refused⟩
  unfold Turn.Settles at settles
  rw [refused] at settles
  exact settles

/-- A turn that settles does not fail for a reason outside the store. -/
theorem Turn.Settles.ok_of_outside {turn : Turn} (settles : turn.Settles)
    (outside : FailsOutside turn.result) : turn.result = .ok () := by
  cases failed : turn.result with
  | ok nothing => rfl
  | error fault =>
    have foreign : fault.isStorage = false := outside fault failed
    unfold Turn.Settles at settles
    rw [failed] at settles
    cases fault with
    | storage problem cause => cases foreign
    | _ => exact settles.elim

/-- The turn of a bucket store that settles can be merged, and what failed in it has the buckets of
its locations for targets. -/
theorem Turn.told_of_bucketStore {turn : Turn} {store : BucketStore σ} {before : Scene σ}
    (ran : (store.delete (.list (turn.members.map .location)) before).1 = turn.result)
    (settles : turn.Settles) : turn.Mergeable ∧ turn.Targeted := by
  have listed : (Datum.list (turn.members.map .location)).items =
    .ok (turn.members.map .location) := rfl
  cases fit : (turn.members.map Datum.location).mapM Datum.toObjectLocation with
  | error fault =>
    obtain ⟨item, inside, refused⟩ := Except.mapM_error fit
    have refuses : BucketStore.Refuses (·.delete (.list (turn.members.map .location))) store before
        (refusalNotes .delete) (∃ item ∈ turn.members.map Datum.location, item.Objectless) :=
      BucketStore.delete_refuses listed
    have refusal := refuses.refuses_iff.mpr
      ⟨item, inside, Datum.toObjectLocation_error_iff.mp ⟨fault, refused⟩⟩
    exact (settles.not_refusal (ran ▸ refusal)).elim
  | ok parsed =>
    rw [Location.mapM_toObjectLocation fit] at fit
    rcases store.delete_fit listed fit before with outside | ⟨batch, failed, filled, keys⟩
    · rw [ran] at outside
      have well := settles.ok_of_outside outside
      refine ⟨⟨settles, ?_, ?_⟩, ?_⟩
      · rw [well]
        exact nofun
      · rw [well]
        exact nofun
      · intro failure inside
        rw [Turn.failures, well] at inside
        cases inside
    · rw [ran] at failed
      refine ⟨⟨settles, ?_, ?_⟩, ?_⟩
      · rw [failed]
        rintro _ _ ⟨⟩
        exact filled
      · rw [failed]
        rintro _ _ ⟨⟩
        exact keys.nodup (nodup_eraseDups _)
      · intro failure inside
        rw [Turn.failures, failed] at inside
        have bucket := keys.subset (List.mem_map_of_mem inside)
        exact List.mem_map.mp (List.mem_eraseDups.mp bucket)

namespace Router

/-- What a batch delete by several stores fails with, and what its failures are named by. -/
structure Names (router : Router τ) (routed : List (Location × Text)) (before : τ)
    (failures : List (Text × Fault)) : Prop where
  /-- The failures are what failed in the turns of the stores. -/
  merged : failures = (router.turns (portions routed) before).1.flatMap Turn.entries
  /-- Each has a bucket of its store's locations for its target. -/
  targeted : ∀ turn ∈ (router.turns (portions routed) before).1, turn.Targeted
  /-- Each names a location of the batch exactly if it has the first scheme of its store. -/
  named_iff : (∀ failure ∈ failures, ∃ entry ∈ routed,
      failure.1 = entry.1.scheme ++ "://" ++ entry.1.authority) ↔
    ∀ turn ∈ (router.turns (portions routed) before).1, turn.WellNamed

variable {router : Router (Scene σ)} {texts : List Text} {routed : List (Location × Text)}

/-- The names of what failed in a turn are those of given locations exactly if each failed bucket is
in a location of the store with the first scheme. -/
theorem TurnByTurn.wellNamed_iff {before after : Scene σ} {turns : List Turn}
    (accepted : (texts.map Datum.text).mapM router.routes.routeObject = .ok routed)
    (shared : router.TurnByTurn routed before turns after) {turn : Turn} (tried : turn ∈ turns) :
    (∀ failure ∈ turn.entries, ∃ entry ∈ routed,
      failure.1 = entry.1.scheme ++ "://" ++ entry.1.authority) ↔ turn.WellNamed := by
  have members := shared.members turn tried
  obtain ⟨served, unmarked⟩ := leadScheme_served accepted (shared.involved tried)
  have own : locationsAt routed turn.store = turn.members := members.symm
  rw [own] at served unmarked
  unfold Turn.entries
  rw [List.forall_mem_map]
  refine forall₂_congr fun failure failed => ?_
  constructor
  · rintro ⟨⟨location, other⟩, given, same⟩
    obtain ⟨alsoServed, alsoUnmarked⟩ := scheme_served accepted given
    obtain ⟨schemes, targets⟩ := append_mark_inj unmarked alsoUnmarked same
    -- The scheme tells the store, so the location is one of this turn.
    rw [← schemes, served] at alsoServed
    cases alsoServed
    exact ⟨location, own ▸ mem_locationsAt.mpr given, schemes.symm, targets.symm⟩
  · rintro ⟨location, inside, scheme, authority⟩
    refine ⟨(location, turn.store), mem_locationsAt.mp (own ▸ inside), ?_⟩
    rw [scheme, authority]

/-- When a batch delete of texts by several bucket stores fails with a batch, its failures are named
by the buckets that failed and the first scheme of each store. Each is the name of a given location
exactly if every failed bucket is in a location of its store with that scheme. -/
theorem delete_names {locations : Datum} (listed : locations.items = .ok (texts.map .text))
    (accepted : (texts.map Datum.text).mapM router.routes.routeObject = .ok routed)
    (several : 2 ≤ (routed.map (·.2)).eraseDups.length) {buckets : Text → BucketStore σ}
    (behind : ∀ entry ∈ routed, router.stores entry.2 = (buckets entry.2).toObjectStore)
    {before : Scene σ} {failures : List (Text × Fault)} {cause : Cause}
    (failed : (router.delete locations before).1 =
      .error (.storage (.batchDelete failures) cause)) :
    router.Names routed before failures := by
  have shared := router.turnByTurn routed before
  have settles := delete_batch_settles listed accepted (Nat.ne_of_gt several) failed
  have told : ∀ turn ∈ (router.turns (portions routed) before).1,
      turn.Mergeable ∧ turn.Targeted := by
    intro turn tried
    obtain ⟨start, last, ran⟩ := turns_ran tried
    obtain ⟨location, given⟩ := mem_involved.mp (shared.involved tried)
    rw [deleteAt, behind _ given] at ran
    exact Turn.told_of_bucketStore (congrArg Prod.fst ran) (settles turn tried)
  have merges := merges_of_turns accepted shared fun turn tried => (told turn tried).1
  rw [delete_together listed accepted (Nat.ne_of_gt several) settles] at failed
  have same := (Fault.storage.inj (merges.merged _ failed)).1
  have merged := StorageProblem.batchDelete.inj same
  refine ⟨merged, fun turn tried => (told turn tried).2, ?_⟩
  rw [merged, List.forall_mem_flatMap]
  exact forall₂_congr fun turn tried => shared.wellNamed_iff accepted tried

/-- Two bucket stores of a service that makes no clients. -/
def barredBuckets (store : Text) : BucketStore Unit :=
  ⟨store, BucketStore.unsteadyService, ⟨{ ClientOptions.empty with region := .text "r" }, [], none⟩,
    .options⟩

/-- The near one serves two schemes, the far one the third. -/
def barredRouter : Router (Scene Unit) :=
  ⟨twinRoutes, fun store => (barredBuckets store).toObjectStore⟩

/-- Locations of both stores, among them one bucket of the near store under each of its schemes. -/
def straddlingTexts : List Text :=
  ["s3://b/k", "S3A://c/k", "s3n://b/k"]

def straddlingPlaces : List (Location × Text) :=
  [(⟨"s3", "b", "/k"⟩, "near"), (⟨"s3a", "c", "/k"⟩, "near"), (⟨"s3n", "b", "/k"⟩, "far")]

/-- What fails in a bucket without a client. -/
def barred (bucket : Text) : Fault :=
  .storage (.nonRetryable ("Failed to delete objects in " ++ bucket ++ ": no client") false)
    (.fault (.mishap (.foreign "RuntimeError" "no client")))

/-- What fails in all buckets of the batch, by the names that it gets. -/
def straddlingFailures : List (Text × Fault) :=
  [("s3://b", barred "b"), ("s3://c", barred "c"), ("s3n://b", barred "b")]

theorem straddlingTexts_listed :
    (Datum.list (straddlingTexts.map .text)).items = .ok (straddlingTexts.map .text) := rfl

theorem straddlingTexts_accepted :
    (straddlingTexts.map Datum.text).mapM barredRouter.routes.routeObject =
      .ok straddlingPlaces := rfl

theorem barredRouter_turns :
    (barredRouter.turns (portions straddlingPlaces) (.start ())).1 =
      [⟨"near", [⟨"s3", "b", "/k"⟩, ⟨"s3a", "c", "/k"⟩],
          .error (.storage (.batchDelete [("b", barred "b"), ("c", barred "c")]) .nothing)⟩,
        ⟨"far", [⟨"s3n", "b", "/k"⟩],
          .error (.storage (.batchDelete [("b", barred "b")]) .nothing)⟩] := rfl

/-- The delete names both buckets of the near store by the scheme of the first. -/
theorem barredRouter_delete :
    (barredRouter.delete (.list (straddlingTexts.map .text)) (.start ())).1 =
      .error (.storage (.batchDelete straddlingFailures) .nothing) := by
  have settles : ∀ turn ∈ (barredRouter.turns (portions straddlingPlaces) (.start ())).1,
      turn.Settles := by
    rw [barredRouter_turns, List.forall_mem_cons, List.forall_mem_singleton]
    exact ⟨trivial, trivial⟩
  have several : (involved straddlingPlaces).length ≠ 1 := by decide
  have merged := congrArg Prod.fst (delete_together straddlingTexts_listed straddlingTexts_accepted
    several settles)
  rwa [barredRouter_turns] at merged

theorem barredRouter_delete_names :
    (Datum.list (straddlingTexts.map .text)).items = .ok (straddlingTexts.map .text) ∧
    (straddlingTexts.map Datum.text).mapM barredRouter.routes.routeObject = .ok straddlingPlaces ∧
    2 ≤ (straddlingPlaces.map (·.2)).eraseDups.length ∧
    (∀ entry ∈ straddlingPlaces,
      barredRouter.stores entry.2 = (barredBuckets entry.2).toObjectStore) ∧
    (barredRouter.delete (.list (straddlingTexts.map .text)) (.start ())).1 =
      .error (.storage (.batchDelete straddlingFailures) .nothing) ∧
    barredRouter.Names straddlingPlaces (.start ()) straddlingFailures := by
  have several : 2 ≤ (straddlingPlaces.map (·.2)).eraseDups.length := by decide
  have behind : ∀ entry ∈ straddlingPlaces,
      barredRouter.stores entry.2 = (barredBuckets entry.2).toObjectStore := fun _ _ => rfl
  exact ⟨straddlingTexts_listed, straddlingTexts_accepted, several, behind, barredRouter_delete,
    delete_names straddlingTexts_listed straddlingTexts_accepted several behind
      barredRouter_delete⟩

/-- A bucket was given under another scheme than the first one of its store, and none of the given
locations has the name that its failure goes by. -/
theorem barredRouter_delete_misnames :
    (straddlingTexts.map Datum.text).mapM barredRouter.routes.routeObject = .ok straddlingPlaces ∧
    (barredRouter.delete (.list (straddlingTexts.map .text)) (.start ())).1 =
      .error (.storage (.batchDelete straddlingFailures) .nothing) ∧
    (("s3://c" : Text), barred "c") ∈ straddlingFailures ∧
    ∀ entry ∈ straddlingPlaces, entry.1.scheme ++ "://" ++ entry.1.authority ≠ "s3://c" :=
  ⟨straddlingTexts_accepted, barredRouter_delete, List.mem_cons_of_mem _ List.mem_cons_self,
    by decide⟩

end Router

end ObjectStorage
