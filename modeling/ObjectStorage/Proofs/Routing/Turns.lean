import ObjectStorage.Proofs.Dialogue
import ObjectStorage.Proofs.Grouping
import ObjectStorage.Proofs.Validation
import ObjectStorage.Router

/-!
# Turns

In a batch delete the stores of a router take turns (`Router.turns`): every store that serves one of
the locations is asked once, in the order of first appearance, for all of its own. A single store
answers for the router (`Router.delete_alone`). Several stores all have their turn as long as each
settles, and what failed in their turns is merged (`Router.delete_together`); both are in
`Router.delete_settled`.
-/

namespace ObjectStorage

open Text

variable {τ : Type}

/-- What is routed can be read, and its scheme has the store. -/
theorem Routes.route_ok {routes : Routes} {source : Datum} {location : Location} {store : Text}
    (routed : routes.route source = .ok (location, store)) :
    source.toLocation = .ok location ∧ routes.byScheme.lookup location.scheme = some store := by
  obtain ⟨read, isRead, routed⟩ := Except.bind_ok routed
  split at routed
  · next found =>
    cases routed
    exact ⟨isRead, found⟩
  · cases routed

/-- What is not routed is refused for its location. -/
theorem Routes.route_error {routes : Routes} {source : Datum} {fault : Fault}
    (refused : routes.route source = .error fault) : ∃ problem, fault = .ofLocation problem := by
  rcases Except.bind_error refused with unread | ⟨location, _, unserved⟩
  · exact Datum.toLocation_error unread
  · split at unserved
    · cases unserved
    · cases unserved
      exact ⟨_, rfl⟩

/-- The place of an object that a router accepts has a store for its scheme, an authority and a
path. -/
theorem Routes.routeObject_ok {routes : Routes} {source : Datum} {location : Location}
    {store : Text} (accepted : routes.routeObject source = .ok (location, store)) :
    source.toLocation = .ok location ∧ routes.byScheme.lookup location.scheme = some store ∧
      location.needAuthority = .ok location.authority ∧ ∃ path, location.needPath = .ok path := by
  obtain ⟨⟨place, served⟩, routed, accepted⟩ := Except.bind_ok accepted
  obtain ⟨authority, named, accepted⟩ := Except.bind_ok accepted
  obtain ⟨key, keyed, accepted⟩ := Except.bind_ok accepted
  cases accepted
  obtain ⟨read, found⟩ := route_ok routed
  rw [Location.needAuthority_ok named] at named
  rw [Location.needKey_eq] at keyed
  refine ⟨read, found, named, ?_⟩
  cases pathed : location.needPath with
  | error fault =>
    rw [pathed] at keyed
    cases keyed
  | ok path => exact ⟨path, rfl⟩

/-- The stores that routed locations go to, in the order of first appearance. -/
def involved (routed : List (Location × Text)) : List Text :=
  (routed.map (·.2)).eraseDups

/-- The routed locations that go to a store, in order. -/
def locationsAt (routed : List (Location × Text)) (store : Text) : List Location :=
  (routed.filter fun entry => entry.2 = store).map (·.1)

/-- The stores that locations go to, each with its own. -/
def portions (routed : List (Location × Text)) : List (Text × List Location) :=
  (involved routed).map fun store => (store, locationsAt routed store)

/-- The groups by store are the portions of the stores. -/
theorem byStore_eq (routed : List (Location × Text)) : byStore routed = portions routed := by
  have asGroups : byStore routed = groupAll (routed.map fun entry => (entry.2, entry.1)) := by
    simp only [byStore, groupAll, List.foldl_map]
  rw [asGroups, groupAll_eq, List.map_map]
  apply List.map_congr_left
  intro store _
  simp only [membersOf, locationsAt, List.filter_map, List.map_map, Function.comp_def]

/-- A store is involved exactly if some place is its own. -/
theorem mem_involved {routed : List (Location × Text)} {store : Text} :
    store ∈ involved routed ↔ ∃ location, (location, store) ∈ routed := by
  simp [involved]

/-- The locations at a store are the places of its own. -/
theorem mem_locationsAt {routed : List (Location × Text)} {location : Location} {store : Text} :
    location ∈ locationsAt routed store ↔ (location, store) ∈ routed := by
  simp [locationsAt]

/-- A store that is involved alone has all locations. -/
theorem locationsAt_alone {routed : List (Location × Text)} {store : Text}
    (alone : involved routed = [store]) : locationsAt routed store = routed.map (·.1) := by
  have all : ∀ entry ∈ routed, decide (entry.2 = store) = true := by
    intro entry inside
    have known : entry.2 ∈ involved routed := mem_involved.mpr ⟨entry.1, inside⟩
    rw [alone, List.mem_singleton] at known
    exact decide_eq_true known
  rw [locationsAt, List.filter_eq_self.mpr all]

/-- The turn of a store in a batch delete: the locations it was asked for and what came of it. -/
structure Turn where
  store : Text
  members : List Location
  result : Except Fault Unit

namespace Turn

/-- What failed in a turn, by its target. A failure that is not one of a batch has no target. -/
def failures (turn : Turn) : List (Text × Fault) :=
  match turn.result with
  | .ok _ => []
  | .error (.storage (.batchDelete batch) _) => batch
  | .error fault => [("", fault)]

/-- A turn lets the next store have its own: it ended well, or in a failure of the store other than
a problem of a location. -/
def Settles (turn : Turn) : Prop :=
  match turn.result with
  | .ok _ => True
  | .error (.storage (.invalidLocation _) _) => False
  | .error (.storage _ _) => True
  | .error _ => False

/-- Puts what failed in a turn among other failures. -/
def mergeInto (failures : List (Text × Fault)) (turn : Turn) : List (Text × Fault) :=
  mergeBatch (leadScheme turn.members) failures turn.failures

/-- What a batch delete by turns ends in: all that failed in them, if anything did. -/
def verdict (turns : List Turn) : Except Fault Unit :=
  batchEnd (turns.foldl mergeInto [])

end Turn

namespace Router

variable (router : Router τ)

/-- Lets stores take turns at deleting, each in the state that the one before it left. -/
def turns : List (Text × List Location) → τ → List Turn × τ
  | [], state => ([], state)
  | (store, members) :: rest, state =>
    let answered := router.deleteAt store members state
    let later := turns rest answered.2
    (⟨store, members, answered.1⟩ :: later.1, later.2)

/-- The first store has its turn, and the rest follow. -/
theorem turns_cons {store : Text} {members : List Location} {rest : List (Text × List Location)}
    {state between : τ} {result : Except Fault Unit}
    (answered : router.deleteAt store members state = (result, between)) :
    router.turns ((store, members) :: rest) state =
      (⟨store, members, result⟩ :: (router.turns rest between).1,
        (router.turns rest between).2) := by
  rw [turns, answered]

/-- Every store has one turn, in order. -/
theorem turns_portions (groups : List (Text × List Location)) (state : τ) :
    (router.turns groups state).1.map (fun turn => (turn.store, turn.members)) = groups := by
  induction groups generalizing state with
  | nil => rfl
  | cons group rest ih =>
    obtain ⟨store, members⟩ := group
    rw [turns, List.map_cons, ih]

/-- Each store that is involved has one turn, in their order. -/
theorem turns_stores (routed : List (Location × Text)) (state : τ) :
    (router.turns (portions routed) state).1.map Turn.store = involved routed := by
  have groups := congrArg (List.map Prod.fst) (router.turns_portions (portions routed) state)
  simpa [portions, List.map_map, Function.comp_def] using groups

/-- The stores that a batch involves have had their turns, on the way from one state to another. -/
structure TurnByTurn (routed : List (Location × Text)) (before : τ) (turns : List Turn)
    (after : τ) : Prop where
  /-- The stores are asked one after the other, and nothing else happens. -/
  asked : router.turns (portions routed) before = (turns, after)
  /-- Every store is asked once, in the order of first appearance. -/
  order : turns.map Turn.store = (routed.map (·.2)).eraseDups
  once : (turns.map Turn.store).Nodup
  /-- It is asked for its own locations, in order. -/
  members : ∀ turn ∈ turns,
    turn.members = (routed.filter fun entry => entry.2 = turn.store).map (·.1)

/-- The turns that a router makes are made one after the other. -/
theorem turnByTurn (routed : List (Location × Text)) (state : τ) :
    router.TurnByTurn routed state (router.turns (portions routed) state).1
      (router.turns (portions routed) state).2 := by
  have groups := router.turns_portions (portions routed) state
  have order := router.turns_stores routed state
  refine ⟨rfl, order, order ▸ nodup_eraseDups _, fun turn tried => ?_⟩
  have group : (turn.store, turn.members) ∈ portions routed :=
    groups ▸ List.mem_map_of_mem (f := fun turn : Turn => (turn.store, turn.members)) tried
  obtain ⟨store, _, same⟩ := List.mem_map.mp group
  obtain ⟨rfl, own⟩ := Prod.mk.inj same
  exact own.symm

variable {router}

/-- Who has a turn is involved. -/
theorem TurnByTurn.involved {routed : List (Location × Text)} {before after : τ}
    {turns : List Turn} (shared : router.TurnByTurn routed before turns after) {turn : Turn}
    (tried : turn ∈ turns) : turn.store ∈ involved routed := by
  rw [ObjectStorage.involved, ← shared.order]
  exact List.mem_map_of_mem tried

section Steps

variable {store : Text} {members : List Location} {state between : τ}

/-- After a turn that settles the next store has its own, and what failed is put to the rest. -/
theorem deleteGroups_settled {result : Except Fault Unit}
    (answered : router.deleteAt store members state = (result, between))
    (settles : (Turn.mk store members result).Settles) (failures : List (Text × Fault))
    (rest : List (Text × List Location)) :
    router.deleteGroups failures ((store, members) :: rest) state =
      router.deleteGroups (Turn.mergeInto failures ⟨store, members, result⟩) rest between := by
  have asked : (router.deleteAt store members).outcome state = (.ok result, between) := by
    rw [Act.outcome_apply, answered]
  rw [deleteGroups, Act.bind_ok asked]
  cases result with
  | ok nothing => rfl
  | error fault =>
    cases fault with
    | storage problem cause =>
      cases problem with
      | batchDelete batch => rfl
      | invalidLocation problem => exact settles.elim
      -- Without a target, the failure is named by the scheme and the mark alone.
      | _ =>
        have untargeted : leadScheme members ++ "://" ++ ("" : Text) =
            leadScheme members ++ "://" := congrArg Text.mk (List.append_nil _)
        rw [← untargeted]
        rfl
    | _ => exact settles.elim

/-- A turn that does not settle is the last, and the batch ends as it did. -/
theorem deleteGroups_unsettled {result : Except Fault Unit}
    (answered : router.deleteAt store members state = (result, between))
    (unsettled : ¬ (Turn.mk store members result).Settles) (failures : List (Text × Fault))
    (rest : List (Text × List Location)) : ∃ fault, result = .error fault ∧
      router.deleteGroups failures ((store, members) :: rest) state = (.error fault, between) := by
  have asked : (router.deleteAt store members).outcome state = (.ok result, between) := by
    rw [Act.outcome_apply, answered]
  rw [deleteGroups, Act.bind_ok asked]
  cases result with
  | ok nothing => exact (unsettled trivial).elim
  | error fault =>
    refine ⟨fault, rfl, ?_⟩
    cases fault with
    | storage problem cause =>
      cases problem with
      | invalidLocation problem => rfl
      | _ => exact (unsettled trivial).elim
    | _ => rfl

end Steps

/-- Going group by group, all stores have their turn if each turn settles. -/
theorem deleteGroups_run (groups : List (Text × List Location)) (failures : List (Text × Fault))
    {state : τ} (settles : ∀ turn ∈ (router.turns groups state).1, turn.Settles) :
    router.deleteGroups failures groups state =
      (.ok ((router.turns groups state).1.foldl Turn.mergeInto failures),
        (router.turns groups state).2) := by
  induction groups generalizing failures state with
  | nil => rfl
  | cons group rest ih =>
    obtain ⟨store, members⟩ := group
    rcases answered : router.deleteAt store members state with ⟨result, between⟩
    rw [router.turns_cons answered] at settles ⊢
    obtain ⟨here, others⟩ := List.forall_mem_cons.mp settles
    rw [deleteGroups_settled answered here, List.foldl_cons]
    exact ih _ others

/-- Unless each turn settles, the batch ends as the first turn did that does not. -/
theorem deleteGroups_stops (groups : List (Text × List Location)) (failures : List (Text × Fault))
    {state : τ} (unsettled : ¬ ∀ turn ∈ (router.turns groups state).1, turn.Settles) :
    ∃ turn ∈ (router.turns groups state).1, ¬ turn.Settles ∧ ∃ fault after,
      turn.result = .error fault ∧
      router.deleteGroups failures groups state = (.error fault, after) := by
  induction groups generalizing failures state with
  | nil => exact (unsettled nofun).elim
  | cons group rest ih =>
    obtain ⟨store, members⟩ := group
    rcases answered : router.deleteAt store members state with ⟨result, between⟩
    rw [router.turns_cons answered] at unsettled ⊢
    by_cases here : (Turn.mk store members result).Settles
    · rw [deleteGroups_settled answered here]
      obtain ⟨turn, tried, stops⟩ :=
        ih _ fun others => unsettled (List.forall_mem_cons.mpr ⟨here, others⟩)
      exact ⟨turn, List.mem_cons_of_mem _ tried, stops⟩
    · obtain ⟨fault, failed, stopped⟩ := deleteGroups_unsettled answered here failures rest
      exact ⟨_, List.mem_cons_self, here, fault, between, failed, stopped⟩

/-- The delete of accepted locations goes on with the stores that are involved. -/
theorem delete_accepted {locations : Datum} {items : List Datum} {routed : List (Location × Text)}
    (listed : locations.items = .ok items)
    (accepted : items.mapM router.routes.routeObject = .ok routed) :
    router.delete locations =
      (match portions routed with
        | [(store, members)] => router.deleteAt store members
        | groups => do
          let failures ← router.deleteGroups [] groups
          if !failures.isEmpty then Act.fail (.storage (.batchDelete failures) .nothing)) := by
  funext state
  have gone : Act.ofExcept locations.items state = (.ok items, state) :=
    congrArg (·, state) listed
  have checked : Act.ofExcept (items.mapM router.routes.routeObject) state = (.ok routed, state) :=
    congrArg (·, state) accepted
  unfold delete
  rewrite [Act.bind_ok gone, Act.bind_ok checked, byStore_eq]
  rcases portions routed with _ | ⟨_, _ | _⟩ <;> rfl

/-- What a single store says goes through unchanged. -/
theorem delete_alone {locations : Datum} {items : List Datum} {routed : List (Location × Text)}
    (listed : locations.items = .ok items)
    (accepted : items.mapM router.routes.routeObject = .ok routed) {store : Text}
    (alone : involved routed = [store]) :
    router.delete locations = router.deleteAt store (routed.map (·.1)) := by
  rw [delete_accepted listed accepted, portions, alone, ← locationsAt_alone alone]
  rfl

/-- What failed in the turns of several stores is merged. -/
theorem delete_together {locations : Datum} {items : List Datum}
    {routed : List (Location × Text)} (listed : locations.items = .ok items)
    (accepted : items.mapM router.routes.routeObject = .ok routed)
    (together : (involved routed).length ≠ 1) {state : τ}
    (settles : ∀ turn ∈ (router.turns (portions routed) state).1, turn.Settles) :
    router.delete locations state =
      (Turn.verdict (router.turns (portions routed) state).1,
        (router.turns (portions routed) state).2) := by
  rw [delete_accepted listed accepted]
  split
  · next single =>
    have one := congrArg List.length single
    rw [portions, List.length_map] at one
    exact (together one).elim
  · rw [Act.bind_ok (deleteGroups_run _ [] settles)]
    exact failBatch_apply _ _

end Router

end ObjectStorage
