import ObjectStorage.Proofs.Objects.Spelling
import ObjectStorage.Proofs.Objects.Steps

/-!
# Stores as shelves

A store of a calm world is a shelf to those who call it, whatever sinks are open at once and
whenever its clients are closed (`Session.run_refines_shelf`).
-/

namespace ObjectStorage

open Text

namespace Session

variable {name : Text} {options : StoreOptions} {session : Session} {shelf : Shelf}

/-- What calls to a store come to: their results, and the objects that are there then. -/
def comesTo (name : Text) (session : Session) (calls : List StoreCall) :
    List (Except Fault Answer) × Objects :=
  match session.run (calls.map (·.step name)) with
  | (seen, after) => (seen.map Seen.result, fun place => after.scene.remote.objects.lookup place)

/-- A store of a session is a shelf to those who call it. -/
structure IsShelf (name : Text) (session : Session) (shelf : Shelf) : Prop where
  /-- Calls have the results that they have on the shelf, and the objects are the shelf's then. -/
  refines : ∀ calls,
    session.comesTo name calls = ((shelf.run calls).1, (shelf.run calls).2.objects)
  /-- A delete that succeeds takes away exactly the objects at its locations. -/
  deletes : ∀ calls locations listed,
    (session.comesTo name (calls ++ [.delete locations listed])).1 =
      (session.comesTo name calls).1 ++ [.ok .nothing] →
    ∃ items parsed, locations.items = .ok items ∧
      items.mapM Datum.toObjectLocation = .ok parsed ∧
      (session.comesTo name (calls ++ [.delete locations listed])).2 =
        (session.comesTo name calls).2.without
          fun place => parsed.any fun location => location.place == place
  /-- Objects that no call names stay. -/
  untouched : ∀ calls place, (∀ call ∈ calls, call.names place = false) →
    (session.comesTo name calls).2 place = shelf.objects place
  /-- Closing the clients in between changes no result and no object. -/
  closing : ∀ early late, session.comesTo name (early ++ .closeClients :: late) =
    ((session.comesTo name (early ++ late)).1.insertIdx early.length (.ok .nothing),
      (session.comesTo name (early ++ late)).2)
  /-- All spellings of a location are of one place. -/
  spelled : ∀ first second, Location.isSpelling first = true → Location.isSpelling second = true →
    ∀ rest, (Datum.text (first ++ "://" ++ rest)).toObjectLocation.toOption.map Location.place =
      (Datum.text (second ++ "://" ++ rest)).toObjectLocation.toOption.map Location.place

/-- A session comes to what the shelf that it stands for comes to. -/
theorem comesTo_eq (keyable : options.Keyable) (unrouted : name ≠ routerName)
    (stands : session.StandsFor name options shelf) (calls : List StoreCall) :
    session.comesTo name calls = ((shelf.run calls).1, (shelf.run calls).2.objects) := by
  obtain ⟨same, last⟩ := run_stands keyable unrouted stands calls
  exact Prod.ext same (funext last.shows.stored)

/-- A store over a calm world is a shelf with the objects of the world. Its name is not that of the
router, and its options can be keys. -/
theorem run_refines_shelf {backends : List (Text × Backend)} {world : World}
    (unrouted : name ≠ routerName) (stored : backends.lookup name = some (.ofOptions name options))
    (keyable : options.Keyable) (calm : world.Calm) (routes : Routes) :
    (start backends routes world).IsShelf name world.shelf := by
  have stands : (start backends routes world).StandsFor name options world.shelf :=
    ⟨stored, ⟨calm, fun _ => rfl⟩, rfl, fun _ _ held => nomatch held⟩
  have refines := comesTo_eq keyable unrouted stands
  refine ⟨refines, ?_, ?_, ?_, ?_⟩
  · intro calls locations listed succeeded
    rw [refines, refines, Shelf.run_append] at succeeded
    rw [refines, refines, Shelf.run_append]
    have ended := List.cons.inj (List.append_cancel_left succeeded)
    exact Shelf.perform_delete_ok locations listed ended.1
  · intro calls place unnamed
    rw [refines]
    have kept : world.shelf.Untouched place (world.shelf.objects place) :=
      ⟨rfl, fun _ _ held => nomatch held⟩
    exact (Shelf.run_untouched kept unnamed).same
  · intro early late
    rw [refines, refines, Shelf.run_closing]
  · intro first second firstSpelling secondSpelling rest
    rw [Datum.toObjectLocation_spelled firstSpelling,
      Datum.toObjectLocation_spelled secondSpelling]

/-- A world with one object, whose second client cannot be closed. -/
def steadyWorld : World where
  now := .beginning
  buckets := ["b"]
  objects := [(("b", "old"), [7])]
  scripts := [("create", .each [none, some (.give (.text "noclose"))])]
  clients := 0

/-- Options by which one bucket has a client of its own. -/
def steadyOptions : StoreOptions where
  defaults := .empty
  buckets := [("c", { ClientOptions.empty with region := .text "r" })]
  retryAfter := none

/-- Two sinks for one object, of which the one that was opened first is closed last. -/
def twoSinks : List StoreCall :=
  [.openSink "early" (.text "s3://b/k"), .openSink "late" (.text "S3A://b/k"),
    .useSink "early" (.write (some [1])), .useSink "late" (.write (some [2])),
    .useSink "late" .close, .closeClients, .useSink "early" .close, .useSink "late" .close,
    .read (.text "s3n://b/k")]

/-- The steady world only does what it is asked for. -/
theorem steadyWorld_calm : steadyWorld.Calm := by
  intro key script found
  obtain ⟨rfl, rfl⟩ := Prod.mk.inj (List.mem_singleton.mp (mem_of_lookup found))
  intro reaction inside
  rcases List.mem_cons.mp inside with rfl | inside
  · rfl
  · rw [List.mem_singleton.mp inside]
    decide

/-- The steady options can be a key. -/
theorem steadyOptions_keyable : steadyOptions.Keyable := by
  intro bucket
  unfold StoreOptions.effective
  split
  · next own found =>
    obtain ⟨_, rfl⟩ := Prod.mk.inj (List.mem_singleton.mp (mem_of_lookup found))
    rfl
  · rfl

/-- A session with a store of the steady world. -/
def steadySession : Session :=
  start [("s3", .ofOptions "s3" steadyOptions)] .empty steadyWorld

theorem steadySession_refines_shelf :
    ("s3" : Text) ≠ routerName ∧
    steadySession.backends.lookup ("s3" : Text) = some (.ofOptions "s3" steadyOptions) ∧
    steadyOptions.Keyable ∧ steadyWorld.Calm ∧
    steadySession.IsShelf "s3" steadyWorld.shelf ∧
    (steadySession.comesTo "s3" twoSinks).2 ("b", "k") = some [1] := by
  have unrouted : ("s3" : Text) ≠ routerName := by decide
  have stored : steadySession.backends.lookup ("s3" : Text) =
      some (.ofOptions "s3" steadyOptions) := rfl
  have shelf : steadySession.IsShelf "s3" steadyWorld.shelf :=
    run_refines_shelf unrouted stored steadyOptions_keyable steadyWorld_calm .empty
  refine ⟨unrouted, stored, steadyOptions_keyable, steadyWorld_calm, shelf, ?_⟩
  rw [shelf.refines]
  decide +kernel

end Session

end ObjectStorage
