import ObjectStorage.Proofs.Boundary.Likeness
import ObjectStorage.Proofs.Routing.Registrations
import ObjectStorage.Proofs.Routing.Screening

/-!
# Transparency

A router that serves the schemes of bucket stores by one store seems like the store itself: the same
is asked of the service in the same order, and the same comes of it. The store reads a scheme in any
letter case, and so does the router for a location that is read from a text, but a location that is
given as such is looked up by its scheme as it stands. So the router refuses a place that the store
accepts exactly if it is given with capitals in its scheme (`Router.transparent`).
-/

namespace ObjectStorage

open Text

variable {σ α : Type}

namespace Routes

/-- The schemes of bucket stores are served by one store, and no others are served. -/
def ServesBuckets (routes : Routes) (store : Text) : Prop :=
  ∀ scheme, routes.byScheme.lookup scheme =
    if scheme ∈ Location.bucketSchemes then some store else none

/-- To register a store for the schemes of buckets makes it serve them. -/
theorem servesBuckets_register {schemes : List Text}
    (registered : ∀ scheme, scheme ∈ schemes.map lower ↔ scheme ∈ Location.bucketSchemes)
    (store : Text) : (empty.register schemes store).ServesBuckets store := by
  intro scheme
  rw [lookup_register]
  by_cases known : scheme ∈ Location.bucketSchemes
  · rw [if_pos known, if_pos ((registered scheme).mpr known)]
  · rw [if_neg known, if_neg fun own => known ((registered scheme).mp own)]
    rfl

variable {routes : Routes} {store : Text} {source : Datum}

/-- A location goes to the store if its scheme is one of bucket stores in small letters. -/
theorem ServesBuckets.route_ok (serves : routes.ServesBuckets store) {location : Location}
    {name : Text} (routed : routes.route source = .ok (location, name)) :
    source.toLocation = .ok location ∧ location.scheme ∈ Location.bucketSchemes ∧ name = store := by
  obtain ⟨read, found⟩ := Routes.route_ok routed
  rw [serves] at found
  split at found
  · next known =>
    cases found
    exact ⟨read, known, rfl⟩
  · cases found

/-- What goes to no store is in no bucket, or has capitals in its scheme. -/
theorem ServesBuckets.route_error (serves : routes.ServesBuckets store) {fault : Fault}
    (refused : routes.route source = .error fault) :
    (source.Bucketless ∨ source.OddlyCased) ∧ ∃ problem, fault = .ofLocation problem := by
  rcases Except.bind_error refused with unread | ⟨location, read, unserved⟩
  · exact ⟨.inl (Datum.toLocation_refused unread), Datum.toLocation_error unread⟩
  split at unserved
  · cases unserved
  · next unknown =>
    cases unserved
    refine ⟨?_, _, rfl⟩
    by_cases schemed : Location.isBucketScheme location.scheme = true
    · rcases Datum.oddlyCased_of_read read schemed with known | odd
      · rw [serves, if_pos known] at unknown
        cases unknown
      · exact .inr odd
    · rw [Datum.isBucketScheme_iff] at schemed
      exact .inl (.elsewhere read schemed)

/-- Capitals in a scheme are not looked up. -/
theorem ServesBuckets.route_oddlyCased (serves : routes.ServesBuckets store)
    (odd : source.OddlyCased) : ∃ problem, routes.route source = .error (.ofLocation problem) := by
  obtain ⟨own, rfl, _, capital⟩ := odd
  have unknown : routes.byScheme.lookup own.scheme = none := by rw [serves, if_neg capital]
  exact ⟨.unserved own, route_unserved rfl unknown⟩

end Routes

/-- An operation on one place behind the check of a router that there is a store for it. -/
def Routes.screened {τ : Type} (routes : Routes) (operation : Datum → Act τ α) (source : Datum) :
    Act τ α := do
  let _ ← Act.ofExcept (routes.route source)
  operation source

namespace Routes

variable {τ : Type} {routes : Routes} {store : Text} {scene : Scene σ} {source : Datum}

/-- All that a router adds to the operation of its store is the check, for an operation that takes
a datum for the location that it stands for. -/
theorem ServesBuckets.hands_over (serves : routes.ServesBuckets store)
    (operation : Text → Datum → Act τ α) (direct : Datum → Act τ α)
    (behind : operation store = direct)
    (reads : ∀ location, source.toLocation = .ok location →
      direct (.location location) = direct source) :
    (do
      let (location, name) ← Act.ofExcept (routes.route source)
      operation name (.location location)) = routes.screened direct source := by
  funext state
  unfold screened
  cases routed : routes.route source with
  | error fault => rfl
  | ok answer =>
    obtain ⟨location, name⟩ := answer
    obtain ⟨read, _, rfl⟩ := serves.route_ok routed
    change operation name (.location location) state = direct source state
    rw [behind, reads location read]

/-- A store cannot be told from the router in front of it unless the router turns down what the
store goes on with: a place with capitals in its scheme. -/
theorem ServesBuckets.seemsLike_iff (serves : routes.ServesBuckets store)
    {operation : Datum → Act (Scene σ) α} {unfit : Prop}
    (bucketless : source.Bucketless → unfit)
    (turnsDown : unfit → (operation source).TurnsDown scene)
    (goesOn : ¬ unfit → (operation source).GoesOn scene) :
    (routes.screened operation source).SeemsLike (operation source) scene ↔
      ¬ (source.OddlyCased ∧ ¬ unfit) := by
  have down {problem : LocationProblem}
      (refused : routes.route source = .error (.ofLocation problem)) :
      (routes.screened operation source).TurnsDown scene := by
    refine ⟨problem, [], rfl, ?_⟩
    unfold screened
    rw [refused, List.append_nil]
    rfl
  constructor
  · rintro seems ⟨odd, fit⟩
    obtain ⟨problem, refused⟩ := serves.route_oddlyCased odd
    exact (down refused).not_seemsLike (goesOn fit) seems
  · intro served
    cases routed : routes.route source with
    | ok answer =>
      apply Act.SeemsLike.of_eq
      unfold screened
      rw [routed]
      rfl
    | error fault =>
      obtain ⟨nowhere, problem, rfl⟩ := serves.route_error routed
      have isUnfit : unfit := by
        by_contra fit
        rcases nowhere with lost | odd
        · exact fit (bucketless lost)
        · exact served ⟨odd, fit⟩
      exact .of_turnsDown (down routed) (turnsDown isUnfit)

end Routes

/-- A store that all of some locations go to is involved alone. -/
theorem involved_alone {routed : List (Location × Text)} {store : Text}
    (own : ∀ entry ∈ routed, entry.2 = store) (filled : routed ≠ []) :
    involved routed = [store] := by
  have stores : involved routed = List.replicate (involved routed).length store := by
    apply List.eq_replicate_of_mem
    intro other inside
    obtain ⟨location, known⟩ := mem_involved.mp inside
    exact own _ known
  have once : (involved routed).Nodup := nodup_eraseDups _
  have some : involved routed ≠ [] := by
    obtain ⟨entry, known⟩ := List.exists_mem_of_ne_nil routed filled
    exact List.ne_nil_of_mem (mem_involved.mpr ⟨entry.1, known⟩)
  have atMost : (involved routed).length ≤ 1 := by
    rwa [stores, List.nodup_replicate] at once
  have atLeast : 0 < (involved routed).length := List.length_pos_iff.mpr some
  have one : (involved routed).length = 1 := by omega
  rw [stores, one]
  rfl

/-- If the answers for a row come from those of another check, the row is accepted as they say. -/
theorem Except.mapM_map_answers {ε α β γ : Type} {each : α → Except ε β} {other : α → Except ε γ}
    {form : β → γ} {items : List α} {answers : List β} (ran : items.mapM each = .ok answers)
    (alike : ∀ item answer, each item = .ok answer → other item = .ok (form answer)) :
    items.mapM other = .ok (answers.map form) := by
  induction items generalizing answers with
  | nil =>
    cases ran
    rfl
  | cons first rest ih =>
    rw [List.mapM_cons] at ran
    obtain ⟨own, here, ran⟩ := bind_ok ran
    obtain ⟨others, later, ran⟩ := bind_ok ran
    cases ran
    rw [List.mapM_cons, alike first own here, ih later]
    rfl

namespace Routes

variable {routes : Routes} {store : Text} {item : Datum}

/-- A router for bucket stores does not accept what is no object of a bucket, and nothing else but
capitals in a scheme. -/
theorem ServesBuckets.unfit (serves : routes.ServesBuckets store) (unfit : routes.Unfit item) :
    item.Objectless ∨ item.OddlyCased := by
  obtain ⟨fault, refused⟩ := routeObject_error_iff.mpr unfit
  rcases Except.bind_error refused with unrouted | ⟨⟨location, name⟩, routed, _⟩
  · exact (serves.route_error unrouted).1.imp_left .bucketless
  · obtain ⟨read, known, _⟩ := serves.route_ok routed
    cases unfit with
    | unread unread => cases unread.symm.trans read
    | unserved also unknown =>
      cases also.symm.trans read
      rw [serves, if_pos known] at unknown
      cases unknown
    | unnamed also nameless => exact .inl (.bucketless (.unnamed also nameless))
    | pathless also nowhere => exact .inl (.pathless also nowhere)

/-- A router turns down a location whose scheme is not in small letters. -/
theorem ServesBuckets.unfit_of_oddlyCased (serves : routes.ServesBuckets store)
    (odd : item.OddlyCased) : routes.Unfit item := by
  obtain ⟨own, rfl, _, capital⟩ := odd
  exact .unserved rfl (by rw [serves, if_neg capital])

/-- What a router for bucket stores accepts, its store does, too. -/
theorem ServesBuckets.routeObject_ok (serves : routes.ServesBuckets store) {location : Location}
    {name : Text} (accepted : routes.routeObject item = .ok (location, name)) :
    item.toObjectLocation = .ok location ∧
      (Datum.location location).toObjectLocation = .ok location ∧ name = store := by
  obtain ⟨read, found, named, path, pathed⟩ := Routes.routeObject_ok accepted
  rw [serves] at found
  split at found
  · next known =>
    cases found
    have fit := Location.toObjectLocation_self known named pathed
    exact ⟨Datum.toObjectLocation_of_read read ▸ fit, fit, rfl⟩
  · cases found

end Routes

namespace Router

/-- A router seems like a store to all operations, but for capitals in the schemes of locations that
are given as such: where nothing else is wrong with the place, it turns down what the store does
not. -/
structure Transparent (router : Router (Scene σ)) (store : BucketStore σ) (scene : Scene σ) :
    Prop where
  ping_iff : ∀ source : Datum, (router.ping source).SeemsLike (store.ping source) scene ↔
    ¬ (source.OddlyCased ∧ ¬ source.Bucketless)
  read_iff : ∀ source : Datum, (router.read source).SeemsLike (store.read source) scene ↔
    ¬ (source.OddlyCased ∧ ¬ source.Objectless)
  /-- The sink that is opened is the same, too. -/
  openSink_iff : ∀ source : Datum,
    (router.openSink source).SeemsLike (store.openSink source) scene ↔
      ¬ (source.OddlyCased ∧ ¬ source.Objectless)
  delete_iff : ∀ (locations : Datum) (items : List Datum), locations.items = .ok items →
    ((router.delete locations).SeemsLike (store.delete locations) scene ↔
      ¬ ((∃ item ∈ items, item.OddlyCased) ∧ ∀ item ∈ items, ¬ item.Objectless))
  /-- What is no sequence of locations is no such sequence for both. -/
  unlisted : ∀ (locations : Datum) (fault : Fault), locations.items = .error fault →
    (router.delete locations).SeemsLike (store.delete locations) scene

variable {router : Router (Scene σ)} {name : Text} {store : BucketStore σ} {scene : Scene σ}

/-- Items that the router accepts are all handed to the store. -/
theorem delete_handed (serves : router.routes.ServesBuckets name)
    (behind : router.stores name = store.toObjectStore) {locations : Datum} {items : List Datum}
    (listed : locations.items = .ok items) {routed : List (Location × Text)}
    (accepted : items.mapM router.routes.routeObject = .ok routed) (some : items ≠ []) :
    router.delete locations = store.delete locations := by
  have own : ∀ entry ∈ routed, entry.2 = name ∧
      (Datum.location entry.1).toObjectLocation = .ok entry.1 := by
    rintro ⟨location, other⟩ inside
    obtain ⟨item, _, fits⟩ := Except.mapM_ok accepted inside
    obtain ⟨_, fit, same⟩ := serves.routeObject_ok fits
    exact ⟨same, fit⟩
  have parsed : items.mapM Datum.toObjectLocation = .ok (routed.map (·.1)) :=
    Except.mapM_map_answers accepted fun _ _ fits => (serves.routeObject_ok fits).1
  have again : ((routed.map (·.1)).map Datum.location).mapM Datum.toObjectLocation =
      .ok (routed.map (·.1)) := by
    apply Except.mapM_map_of_forall
    intro location inside
    obtain ⟨entry, known, rfl⟩ := List.mem_map.mp inside
    exact (own entry known).2
  have filled : routed ≠ [] := by
    obtain ⟨item, inside⟩ := List.exists_mem_of_ne_nil items some
    obtain ⟨entry, known, _⟩ := Except.mapM_ok_of_mem accepted inside
    exact List.ne_nil_of_mem known
  have alone : involved routed = [name] :=
    involved_alone (fun entry inside => (own entry inside).1) filled
  have listedAgain : (Datum.list ((routed.map (·.1)).map .location)).items =
      .ok ((routed.map (·.1)).map .location) := rfl
  rw [delete_alone listed accepted alone, deleteAt, behind]
  change store.delete _ = _
  rw [store.delete_listed listedAgain, store.delete_listed listed, again, parsed]

/-- A ping by the router is a ping by the store behind the check. -/
theorem ping_screened (serves : router.routes.ServesBuckets name)
    (behind : router.stores name = store.toObjectStore) (source : Datum) :
    router.ping source = router.routes.screened store.ping source := by
  apply serves.hands_over (fun name => (router.stores name).ping) store.ping
  · rw [behind]
    rfl
  · intro location read
    unfold BucketStore.ping
    rw [Datum.toBucketLocation_of_read read]

/-- A read by the router is a read by the store behind the check. -/
theorem read_screened (serves : router.routes.ServesBuckets name)
    (behind : router.stores name = store.toObjectStore) (source : Datum) :
    router.read source = router.routes.screened store.read source := by
  apply serves.hands_over (fun name => (router.stores name).read) store.read
  · rw [behind]
    rfl
  · intro location read
    unfold BucketStore.read
    rw [Datum.toObjectLocation_of_read read]

/-- The router opens the sinks of the store behind the check. -/
theorem openSink_screened (serves : router.routes.ServesBuckets name)
    (behind : router.stores name = store.toObjectStore) (source : Datum) :
    router.openSink source = router.routes.screened store.openSink source := by
  apply serves.hands_over (fun name => (router.stores name).openSink) store.openSink
  · rw [behind]
    rfl
  · intro location read
    unfold BucketStore.openSink
    rw [Datum.toObjectLocation_of_read read]

/-- A delete that is turned down is so by a router that does not accept an item. -/
theorem delete_turnsDown {locations : Datum} {items : List Datum}
    (listed : locations.items = .ok items) (unfit : ∃ item ∈ items, router.routes.Unfit item) :
    (router.delete locations).TurnsDown scene := by
  obtain ⟨problem, ran⟩ := Routes.delete_refused listed unfit
  refine ⟨problem, [], rfl, ?_⟩
  rw [List.append_nil]
  exact ran _ router.stores scene

/-- A delete of nothing asks for nothing. -/
theorem delete_nothing {locations : Datum} (listed : locations.items = .ok []) :
    (router.delete locations).SeemsLike (store.delete locations) scene := by
  have routed : ([] : List Datum).mapM router.routes.routeObject = .ok [] := rfl
  rw [delete_accepted listed routed, store.delete_listed listed]
  exact (Act.SeemsLike.of_eq rfl).trans (Act.SeemsLike.of_tallied .delete).symm

/-- A delete by the router seems like one by the store, unless there is an odd scheme in the batch
and nothing else to turn it down for. -/
theorem delete_seemsLike_iff (serves : router.routes.ServesBuckets name)
    (behind : router.stores name = store.toObjectStore) {locations : Datum} {items : List Datum}
    (listed : locations.items = .ok items) :
    (router.delete locations).SeemsLike (store.delete locations) scene ↔
      ¬ ((∃ item ∈ items, item.OddlyCased) ∧ ∀ item ∈ items, ¬ item.Objectless) := by
  have refuses : BucketStore.Refuses (·.delete locations) store scene (refusalNotes .delete)
      (∃ item ∈ items, item.Objectless) := BucketStore.delete_refuses listed
  constructor
  · rintro seems ⟨⟨item, inside, odd⟩, fit⟩
    have down : (router.delete locations).TurnsDown scene :=
      delete_turnsDown listed ⟨item, inside, serves.unfit_of_oddlyCased odd⟩
    have goes := refuses.goesOn fun ⟨other, known, objectless⟩ => fit other known objectless
    exact down.not_seemsLike goes seems
  · intro served
    by_cases unfit : ∃ item ∈ items, router.routes.Unfit item
    · have objectless : ∃ item ∈ items, item.Objectless := by
        by_contra fit
        obtain ⟨item, inside, unfit⟩ := unfit
        rcases serves.unfit unfit with objectless | odd
        · exact fit ⟨item, inside, objectless⟩
        · exact served ⟨⟨item, inside, odd⟩, fun other known wrong => fit ⟨other, known, wrong⟩⟩
      exact .of_turnsDown (delete_turnsDown listed unfit) (refuses.turnsDown rfl objectless)
    · by_cases empty : items = []
      · exact delete_nothing (empty ▸ listed)
      · obtain ⟨routed, accepted⟩ := Routes.accepted_iff.mpr fun item inside wrong =>
          unfit ⟨item, inside, wrong⟩
        exact .of_eq (congrFun (delete_handed serves behind listed accepted empty) scene)

/-- A router with one store for the schemes of bucket stores, in whatever case they were registered,
is transparent but for the capitals in given locations. -/
theorem transparent {schemes : List Text}
    (registered : ∀ scheme, scheme ∈ schemes.map lower ↔ scheme ∈ Location.bucketSchemes)
    (stores : Text → ObjectStore (Scene σ)) (behind : stores name = store.toObjectStore)
    (scene : Scene σ) :
    (Router.mk (Routes.empty.register schemes name) stores).Transparent store scene := by
  have serves := Routes.servesBuckets_register registered name
  constructor
  · intro source
    have refuses : BucketStore.Refuses (·.ping source) store scene (refusalNotes .ping)
        source.Bucketless := store.ping_refuses source
    rw [ping_screened serves behind]
    exact serves.seemsLike_iff id (refuses.turnsDown rfl) refuses.goesOn
  · intro source
    rw [read_screened serves behind]
    exact serves.seemsLike_iff .bucketless BucketStore.read_turnsDown BucketStore.read_goesOn
  · intro source
    have refuses : BucketStore.Refuses (·.openSink source) store scene [] source.Objectless :=
      store.openSink_refuses source
    rw [openSink_screened serves behind]
    exact serves.seemsLike_iff .bucketless (refuses.turnsDown rfl) refuses.goesOn
  · exact fun locations items listed => delete_seemsLike_iff serves behind listed
  · intro locations fault unlisted
    refine Act.SeemsLike.trans ?_ (Act.SeemsLike.of_tallied .delete).symm
    apply Act.SeemsLike.of_eq
    unfold delete
    rw [unlisted]
    rfl

/-- A router that was given the schemes of buckets in mixed letters. -/
def mixedSchemes : List Text :=
  ["s3", "S3A", "s3n"]

theorem mixedSchemes_transparent :
    (∀ scheme, scheme ∈ mixedSchemes.map lower ↔ scheme ∈ Location.bucketSchemes) ∧
    (Router.mk (Routes.empty.register mixedSchemes "near") twinStores).Transparent
      (twinBuckets "near") (.start ()) := by
  have small : mixedSchemes.map lower = Location.bucketSchemes := by decide
  have registered : ∀ scheme, scheme ∈ mixedSchemes.map lower ↔
      scheme ∈ Location.bucketSchemes := fun scheme => small ▸ Iff.rfl
  exact ⟨registered, transparent registered twinStores rfl (.start ())⟩

/-- A bucket that can be reached, with a capital in the scheme of its location. -/
def capitalLocation : Location :=
  ⟨"S3", "fine", "/k"⟩

/-- The store reaches the bucket, and the router in front of it says that nobody serves the
scheme. -/
theorem capitalLocation_not_transparent :
    ((twinBuckets "near").ping (.location capitalLocation) (.start ())).1 = .ok () ∧
    ((Router.mk (Routes.empty.register Location.bucketSchemes "near") twinStores).ping
      (.location capitalLocation) (.start ())).1 =
        .error (.ofLocation (.unserved capitalLocation)) ∧
    ¬ ((Router.mk (Routes.empty.register Location.bucketSchemes "near") twinStores).ping
      (.location capitalLocation)).SeemsLike ((twinBuckets "near").ping (.location capitalLocation))
        (.start ()) := by
  have reached : ((twinBuckets "near").ping (.location capitalLocation) (.start ())).1 = .ok () :=
    rfl
  have refused : ((Router.mk (Routes.empty.register Location.bucketSchemes "near") twinStores).ping
      (.location capitalLocation) (.start ())).1 =
        .error (.ofLocation (.unserved capitalLocation)) := rfl
  refine ⟨reached, refused, fun seems => ?_⟩
  rcases seems.ends with same | ⟨_, problem, cause, told⟩
  · cases refused.symm.trans (same.trans reached)
  · cases told.symm.trans reached

end Router

end ObjectStorage
