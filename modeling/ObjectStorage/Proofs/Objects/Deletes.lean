import ObjectStorage.Proofs.Grouping
import ObjectStorage.Proofs.Objects.Calls

/-!
# Deletes in calm worlds

A delete removes the objects at its locations (`World.delete_reaches`). Only a bucket whose name
looks like a location and is none is out of reach; its objects stay and the delete fails for it.
-/

namespace ObjectStorage

open Text

/-- Keys are grouped under the buckets of the locations, each once. -/
theorem map_fst_keysByBucket (parsed : List Location) :
    (keysByBucket parsed).map (·.1) = (parsed.map Location.authority).eraseDups := by
  rw [keysByBucket_eq, List.map_map]
  exact List.map_id _

/-- The groups of a delete have the keys of its locations, and no others; so have the groups of some
buckets. -/
theorem any_keysByBucket (chosen : Text → Bool) (parsed : List Location) (place : Text × Text) :
    ((keysByBucket parsed).any fun group =>
      chosen group.1 && (place.1 == group.1 && group.2.contains place.2)) =
    parsed.any fun location => location.place == place && chosen location.authority := by
  rw [keysByBucket_eq, List.any_map, Bool.eq_iff_iff]
  simp only [List.any_eq_true, List.mem_eraseDups, List.mem_map, Function.comp_apply,
    Bool.and_eq_true, beq_iff_eq, List.contains_iff_mem, keysIn, List.mem_filter,
    decide_eq_true_eq]
  constructor
  · rintro ⟨bucket, _, known, rfl, location, ⟨inside, own⟩, key⟩
    exact ⟨location, inside, Prod.ext own key, own ▸ known⟩
  · rintro ⟨location, inside, rfl, known⟩
    exact ⟨location.authority, ⟨location, inside, rfl⟩, known, rfl, location, ⟨inside, rfl⟩, rfl⟩

namespace World

variable {name : Text} {options : StoreOptions} {objects : Objects}

/-- What keeps a store from a bucket that it is asked for by name: a name that looks like a location
and is none. -/
def unreachable? (bucket : Text) : Option Fault :=
  match StoreOptions.bucketOf (.text bucket) with
  | .error (.storage problem _) => some (.storage problem .itself)
  | _ => none

/-- What keeps a store from a bucket is a failure of its own, which is its own cause. -/
theorem unreachable?_eq_some {bucket : Text} {fault : Fault}
    (refused : unreachable? bucket = some fault) :
    ∃ problem, fault = .storage problem .itself := by
  unfold unreachable? at refused
  split at refused
  · cases refused
    exact ⟨_, rfl⟩
  · cases refused

/-- A place goes with a bucket and its keys, unless the bucket is out of reach. -/
def goes (bucket : Text) (keys : List Text) (place : Text × Text) : Bool :=
  (unreachable? bucket).isNone && (place.1 == bucket && keys.contains place.2)

/-- When all pieces were sent, the objects of their keys are gone. -/
theorem deletePieces_reaches (client : Client) (bucket : Text) (pieces : List (List Text)) :
    ((World.store name options).deletePieces client bucket pieces).Reaches objects (.ok [])
      (objects.without fun place => place.1 == bucket && pieces.flatten.contains place.2) := by
  induction pieces generalizing objects with
  | nil =>
    have nothing : (objects.without fun place => place.1 == bucket && [].contains place.2) =
        objects := by
      funext place
      simp [Objects.without]
    rw [List.flatten_nil, nothing]
    exact .pure _
  | cons keys rest ih =>
    have asked : ((World.store name options).askToDelete client bucket keys).Reaches objects
        (.ok (.table []))
        (objects.without fun place => place.1 == bucket && keys.contains place.2) :=
      BucketStore.guarded_reaches _ <|
        Scene.ask_reaches _ fun _ shows => deleteObjects_calm shows ..
    have gather : (fun place : Text × Text => (place.1 == bucket && keys.contains place.2) ||
        (place.1 == bucket && rest.flatten.contains place.2)) =
        fun place => place.1 == bucket && (keys :: rest).flatten.contains place.2 := by
      funext place
      rw [← Bool.and_or_distrib_left, List.flatten_cons, List.contains_append]
    rw [← gather, ← Objects.without_without, BucketStore.deletePieces_cons]
    exact asked.bind ((Act.Reaches.ofExcept (.ok [])).bind (ih.bind (.pure _)))

/-- The failures of a delete, by the buckets that are out of reach. -/
def refusals (buckets : List Text) : List (Text × Fault) :=
  buckets.filterMap fun bucket => (unreachable? bucket).map fun fault => (bucket, fault)

/-- The objects at locations go, except in buckets out of reach. -/
def gone (parsed : List Location) (place : Text × Text) : Bool :=
  parsed.any fun location => location.place == place && (unreachable? location.authority).isNone

/-- A place goes with some group exactly if it goes with the locations. -/
theorem any_goes (parsed : List Location) (place : Text × Text) :
    ((keysByBucket parsed).any fun group => goes group.1 group.2 place) = gone parsed place :=
  any_keysByBucket (fun bucket => (unreachable? bucket).isNone) parsed place

/-- A place that is not listed is not gone. -/
theorem gone_of_unlisted {parsed : List Location} {place : Text × Text}
    (unlisted : (parsed.any fun location => location.place == place) = false) :
    gone parsed place = false := by
  rw [List.any_eq_false] at unlisted
  refine List.any_eq_false.mpr fun location inside => ?_
  rw [Bool.and_eq_true]
  exact fun both => unlisted location inside both.1

/-- What a delete of parsed locations ends in: the failures of the buckets out of reach. -/
def deleteResult (parsed : List Location) : Except Fault Unit :=
  batchEnd (refusals (parsed.map Location.authority).eraseDups)

/-- A delete that succeeds removes exactly the objects at its locations. -/
theorem gone_of_deleteResult_ok {parsed : List Location} (succeeded : deleteResult parsed = .ok ())
    (place : Text × Text) :
    gone parsed place = parsed.any fun location => location.place == place := by
  have reachable : ∀ location ∈ parsed, unreachable? location.authority = none := by
    intro location inside
    by_contra out
    obtain ⟨fault, refused⟩ := Option.ne_none_iff_exists'.mp out
    have listed : (location.authority, fault) ∈
        refusals (parsed.map Location.authority).eraseDups :=
      List.mem_filterMap.mpr ⟨location.authority,
        List.mem_eraseDups.mpr (List.mem_map_of_mem inside), by rw [refused]; rfl⟩
    rw [batchEnd_ok_iff.mp succeeded] at listed
    cases listed
  unfold gone
  rw [Bool.eq_iff_iff]
  simp only [List.any_eq_true, Bool.and_eq_true]
  constructor
  · rintro ⟨location, inside, same, _⟩
    exact ⟨location, inside, same⟩
  · rintro ⟨location, inside, same⟩
    exact ⟨location, inside, same, by rw [reachable location inside]; rfl⟩

/-- A delete that is refused changes no object. -/
theorem delete_unfit {locations : Datum} {fault : Fault}
    (unfit : (locations.items >>= fun items => items.mapM Datum.toObjectLocation) =
      .error fault) :
    ((World.store name options).delete locations).Reaches objects (.error fault) objects := by
  refine .tallied .delete ?_
  rcases Except.bind_error unfit with unlisted | ⟨items, listed, unfit⟩
  · rw [unlisted]
    exact (Act.Reaches.ofExcept _).bind_error
  · rw [listed]
    refine (Act.Reaches.ofExcept _).bind ?_
    rw [unfit]
    exact (Act.Reaches.ofExcept _).bind_error

variable (keyable : options.Keyable)
include keyable

/-- A delete in a bucket removes its keys, unless the bucket is out of reach. -/
theorem deleteFrom_reaches (bucket : Text) (keys : List Text) :
    ((World.store name options).deleteFrom bucket keys).Reaches objects
      (match unreachable? bucket with
        | none => .ok ()
        | some fault => .error fault) (objects.without (goes bucket keys)) := by
  cases named : StoreOptions.bucketOf (.text bucket) with
  | ok other =>
    have reachable : unreachable? bucket = none := by
      unfold unreachable?
      rw [named]
    have gone : goes bucket keys = fun place => place.1 == bucket &&
        (chunksOf batchLimit keys).flatten.contains place.2 := by
      funext place
      rw [goes, reachable, flatten_chunksOf]
      rfl
    rw [reachable, gone]
    intro scene shows
    obtain ⟨client, between, had, shows⟩ := clientWith_calm keyable named shows
    obtain ⟨after, ran, shows⟩ :=
      deletePieces_reaches client bucket (chunksOf batchLimit keys) between shows
    refine ⟨after, ?_, shows⟩
    unfold BucketStore.deleteFrom
    rw [Act.bind_ok (BucketStore.guarded_ok _ had), Act.bind_ok ran]
    rfl
  | error fault =>
    obtain ⟨problem, rfl⟩ := StoreOptions.bucketOf_error named
    have refused : unreachable? bucket = some (.storage (.invalidLocation problem) .itself) := by
      unfold unreachable?
      rw [named]
      rfl
    have gone : objects.without (goes bucket keys) = objects := by
      funext place
      simp [Objects.without, goes, refused]
    rw [refused, gone]
    have none_had : ((World.store name options).pool.clientWith "delete_objects"
        (.text bucket)).Reaches objects (.error (.ofLocation problem)) objects := by
      refine fun scene shows => ⟨scene, ?_, shows⟩
      have identity : options.identityOf (.text bucket) = .error (.ofLocation problem) :=
        StoreOptions.identityOf_of_refused named
      unfold ClientPool.clientWith ClientPool.clientAt
      rw [bind_assoc]
      exact Act.bind_error (congrArg (·, scene) identity)
    exact (BucketStore.guarded_reaches_own _ none_had).bind_error

/-- When all groups were sent, what went with some group is gone, and the buckets out of reach have
refused. -/
theorem deleteGroups_reaches (groups : List (Text × List Text)) :
    ((World.store name options).deleteGroups groups).Reaches objects
      (.ok (refusals (groups.map (·.1))))
      (objects.without fun place => groups.any fun group => goes group.1 group.2 place) := by
  induction groups generalizing objects with
  | nil => exact .pure _
  | cons group rest ih =>
    obtain ⟨bucket, keys⟩ := group
    have first : (((World.store name options).deleteFrom bucket keys).outcome).Reaches objects _
        (objects.without (goes bucket keys)) := (deleteFrom_reaches keyable bucket keys).outcome
    simp only [List.any_cons, ← Objects.without_without, List.map_cons]
    rw [BucketStore.deleteGroups_cons]
    refine first.bind ?_
    cases reach : unreachable? bucket with
    | none =>
      have skipped : refusals (bucket :: rest.map (·.1)) = refusals (rest.map (·.1)) := by
        simp only [refusals, List.filterMap_cons, reach, Option.map_none]
      rw [skipped]
      exact ih
    | some fault =>
      obtain ⟨problem, rfl⟩ := unreachable?_eq_some reach
      have listed : refusals (bucket :: rest.map (·.1)) =
          (bucket, .storage problem .itself) :: refusals (rest.map (·.1)) := by
        simp only [refusals, List.filterMap_cons, reach, Option.map_some]
      rw [listed]
      exact (Act.Reaches.note _).bind (ih.bind (.pure _))

/-- A delete removes the objects at its locations. -/
theorem delete_reaches {locations : Datum} {items : List Datum} {parsed : List Location}
    (listed : locations.items = .ok items) (fit : items.mapM Datum.toObjectLocation = .ok parsed) :
    ((World.store name options).delete locations).Reaches objects (deleteResult parsed)
      (objects.without (gone parsed)) := by
  refine .tallied .delete ?_
  rw [listed]
  refine (Act.Reaches.ofExcept _).bind ?_
  rw [fit]
  refine (Act.Reaches.ofExcept _).bind ?_
  have deleted : ((World.store name options).deleteGroups (keysByBucket parsed)).Reaches objects _
      _ := deleteGroups_reaches keyable (keysByBucket parsed)
  rw [map_fst_keysByBucket, funext (any_goes parsed)] at deleted
  refine deleted.bind ?_
  unfold deleteResult
  cases refusals (parsed.map Location.authority).eraseDups with
  | nil => exact .pure ()
  | cons first rest => exact .ofExcept (.error _)

end World

end ObjectStorage
