import ObjectStorage.Proofs.Objects.Deletes
import ObjectStorage.Proofs.Sink.Uses
import ObjectStorage.Session

/-!
# Shelves

What a store is to those who use it: a map from places to bytes, and drafts, each of one location
and with what has been written to it. Closing a draft for the first time sets the object at its
location to everything that was written; deleting takes objects away; nothing else changes the map.
-/

namespace ObjectStorage

open Text

/-- A draft takes writes, until it is closed or aborted. -/
inductive Stage
  | taking (written : List (List UInt8))
  | closed
  | aborted

/-- A draft of the object at a location. -/
structure Draft where
  location : Location
  stage : Stage

namespace Draft

/-- The sink that a draft is. -/
def sink (draft : Draft) : Sink where
  name := draft.location.text
  phase := match draft.stage with
    | .taking _ => .collecting
    | .closed => .closed
    | .aborted => .aborted
  buffer? := match draft.stage with
    | .taking written => some written.flatten
    | .closed | .aborted => none

/-- Makes a use of a draft. -/
def use (deed : SinkUse) : Act (Draft × Objects) SinkAnswer :=
  fun (draft, objects) =>
    let stays := (draft, objects)
    match draft.stage, deed with
    | _, .look read => (.ok (read draft.sink), stays)
    | .taking written, .write (some bytes) =>
      (.ok (.count bytes.length), ({ draft with stage := .taking (written ++ [bytes]) }, objects))
    | .taking _, .write none => (.error (.mishap (.wrongType "not bytes")), stays)
    | .taking _, .flush => (.ok .nothing, stays)
    | .taking written, .tell => (.ok (.count written.flatten.length), stays)
    | .taking written, .close | .taking written, .leave none =>
      (.ok .nothing, ({ draft with stage := .closed },
        objects.set draft.location.place written.flatten))
    | .taking _, .abort | .taking _, .leave (some _) =>
      (.ok .nothing, ({ draft with stage := .aborted }, objects))
    | _, .write _ | _, .flush | _, .tell =>
      (.error (.mishap (.closedSink draft.location.text)), stays)
    | _, .close | _, .abort | _, .leave _ => (.ok .nothing, stays)

variable {location : Location} {written : List (List UInt8)} {objects : Objects} {deed : SinkUse}

/-- A draft that was closed or aborted stays as it is. -/
theorem use_late {draft : Draft} (closed : draft.sink.isClosed = true) :
    use deed (draft, objects) = (deed.lateResult draft.sink, (draft, objects)) := by
  obtain ⟨location, stage⟩ := draft
  cases stage with
  | taking written => cases closed
  | closed | aborted =>
    cases deed with
    | write data => cases data <;> rfl
    | leave fault? => cases fault? <;> rfl
    | _ => rfl

/-- The bytes of a write are kept as one more piece. -/
theorem use_open (calm : deed.isTerminal = false) :
    ∃ more, more.flatten = deed.writes ∧ use deed (⟨location, .taking written⟩, objects) =
      (deed.openResult (sink ⟨location, .taking written⟩) written.flatten,
        (⟨location, .taking (written ++ more)⟩, objects)) := by
  cases deed with
  | write data =>
    cases data with
    | none => exact ⟨[], rfl, by rw [List.append_nil]; rfl⟩
    | some bytes => exact ⟨[bytes], List.append_nil bytes, rfl⟩
  | flush | tell | look read => exact ⟨[], rfl, by rw [List.append_nil]; rfl⟩
  | close | abort | leave fault? => cases calm

/-- What ends a draft without a commit puts nothing on the shelf. -/
theorem use_abort (terminal : deed.isTerminal = true) (uncommitting : deed.isCommitting = false) :
    use deed (⟨location, .taking written⟩, objects) =
      (.ok .nothing, (⟨location, .aborted⟩, objects)) := by
  cases deed with
  | leave fault? =>
    cases fault? with
    | none => cases uncommitting
    | some fault => rfl
  | abort => rfl
  | close => cases uncommitting
  | write data | flush | tell | look read => cases terminal

/-- A commit puts the pieces of a draft on the shelf, at its place. -/
theorem use_commit (committing : deed.isCommitting = true) :
    use deed (⟨location, .taking written⟩, objects) =
      (.ok .nothing, (⟨location, .closed⟩, objects.set location.place written.flatten)) := by
  cases deed with
  | leave fault? =>
    cases fault? with
    | none => rfl
    | some fault => cases committing
  | close => rfl
  | write data | flush | tell | abort | look read => cases committing

/-- A use of a draft leaves its location, and the objects elsewhere. -/
theorem use_elsewhere {place : Text × Text} (elsewhere : location.place ≠ place)
    {before : Option (List UInt8)} (deed : SinkUse) (state : Draft × Objects)
    (kept : state.1.location = location ∧ state.2 place = before) :
    (use deed state).2.1.location = location ∧ (use deed state).2.2 place = before := by
  obtain ⟨⟨own, stage⟩, objects⟩ := state
  obtain ⟨rfl, rfl⟩ := kept
  cases stage with
  | closed | aborted =>
    rw [use_late rfl]
    exact ⟨rfl, rfl⟩
  | taking written =>
    cases terminal : deed.isTerminal with
    | false =>
      obtain ⟨more, _, used⟩ : ∃ more, _ ∧ use deed (⟨own, .taking written⟩, objects) =
          (_, (⟨own, .taking (written ++ more)⟩, objects)) := use_open terminal
      rw [used]
      exact ⟨rfl, rfl⟩
    | true =>
      cases committing : deed.isCommitting with
      | false =>
        rw [use_abort terminal committing]
        exact ⟨rfl, rfl⟩
      | true =>
        rw [use_commit committing]
        exact ⟨rfl, if_neg elsewhere.symm⟩

end Draft

/-- Objects by their places, and drafts by their identifiers. -/
structure Shelf where
  objects : Objects
  drafts : List (Text × Draft)

/-- A call to a store, to a sink that it has opened, or to the pool of its clients. -/
inductive StoreCall
  | openSink (id : Text) (source : Datum)
  | useSink (id : Text) (operation : SinkOp)
  | read (source : Datum)
  /-- The sequence may be gone through before the store is asked. -/
  | delete (locations : Datum) (listed : Bool)
  | closeClients

/-- A call as a step of a session. -/
def StoreCall.step (target : Text) (call : StoreCall) : Step where
  target := target
  facade := false
  action := match call with
    | .openSink id source => .openSink id source
    | .useSink id operation => .useSink id operation
    | .read source => .read source
    | .delete locations listed => .delete locations listed
    | .closeClients => .closeClients

/-- A call names the places that it opens a sink for or that it deletes. -/
def StoreCall.names (place : Text × Text) : StoreCall → Bool
  | .openSink _ source =>
    match source.toObjectLocation with
    | .ok location => location.place == place
    | .error _ => false
  | .delete locations _ =>
    match locations.items >>= fun items => items.mapM Datum.toObjectLocation with
    | .ok parsed => parsed.any fun location => location.place == place
    | .error _ => false
  | _ => false

/-- The shelf with the objects of a world, on which no draft has been begun. -/
def World.shelf (world : World) : Shelf where
  objects place := world.objects.lookup place
  drafts := []

namespace Shelf

/-- Answers a call. -/
def perform (call : StoreCall) : Act Shelf Answer :=
  fun shelf =>
    match call with
    | .openSink id source =>
      match source.toObjectLocation with
      | .error fault => (.error fault, shelf)
      | .ok location => (.ok (.text location.text),
        { shelf with drafts := putEntry shelf.drafts id ⟨location, .taking []⟩ })
    | .useSink id operation =>
      match shelf.drafts.lookup id with
      | none => (.error (.mishap (.noEntry id)), shelf)
      | some draft =>
        match operation.plan.run Draft.use (draft, shelf.objects) with
        | (result, (draft, objects)) =>
          (do return .sink (← (← result)) draft.sink.phase.name,
            ⟨objects, putEntry shelf.drafts id draft⟩)
    | .read source => ((shelf.objects.read source).map .bytes, shelf)
    | .delete locations _ =>
      match locations.items >>= fun items => items.mapM Datum.toObjectLocation with
      | .error fault => (.error fault, shelf)
      | .ok parsed => ((World.deleteResult parsed).map fun _ => .nothing,
        { shelf with objects := shelf.objects.without (World.gone parsed) })
    | .closeClients => (.ok .nothing, shelf)

/-- Answers calls one after the other. -/
def run (shelf : Shelf) : List StoreCall → List (Except Fault Answer) × Shelf
  | [] => ([], shelf)
  | first :: rest =>
    let (result, shelf) := perform first shelf
    let (results, shelf) := shelf.run rest
    (result :: results, shelf)

/-- A place has what it had, and no draft is of it. -/
structure Untouched (place : Text × Text) (before : Option (List UInt8)) (shelf : Shelf) :
    Prop where
  same : shelf.objects place = before
  elsewhere : ∀ id draft, shelf.drafts.lookup id = some draft → draft.location.place ≠ place

variable {place : Text × Text} {before : Option (List UInt8)} {shelf : Shelf}

/-- A place stays untouched by a draft of another place. -/
theorem Untouched.put (untouched : shelf.Untouched place before) {id : Text} {draft : Draft}
    (elsewhere : draft.location.place ≠ place) {objects : Objects} (same : objects place = before) :
    Untouched place before ⟨objects, putEntry shelf.drafts id draft⟩ :=
  ⟨same, forall_lookup_putEntry untouched.elsewhere elsewhere⟩

/-- A call that does not name a place leaves it untouched. -/
theorem perform_untouched (untouched : shelf.Untouched place before) {call : StoreCall}
    (unnamed : call.names place = false) : (shelf.perform call).2.Untouched place before := by
  cases call with
  | read source => exact untouched
  | closeClients => exact untouched
  | openSink id source =>
    unfold StoreCall.names at unnamed
    unfold perform
    dsimp only at unnamed ⊢
    cases fit : source.toObjectLocation with
    | error fault => exact untouched
    | ok location =>
      rw [fit] at unnamed
      exact untouched.put (beq_eq_false_iff_ne.mp unnamed) untouched.same
  | useSink id operation =>
    unfold perform
    dsimp only
    cases held : shelf.drafts.lookup id with
    | none => exact untouched
    | some draft =>
      have elsewhere := untouched.elsewhere id draft held
      obtain ⟨located, same⟩ := SinkPlan.run_keeps (Draft.use_elsewhere elsewhere) operation.plan
        (draft, shelf.objects) ⟨rfl, untouched.same⟩
      exact untouched.put (located ▸ elsewhere) same
  | delete locations listed =>
    unfold StoreCall.names at unnamed
    unfold perform
    dsimp only at unnamed ⊢
    cases fit : locations.items >>= fun items => items.mapM Datum.toObjectLocation with
    | error fault => exact untouched
    | ok parsed =>
      rw [fit] at unnamed
      refine ⟨?_, untouched.elsewhere⟩
      have stays : World.gone parsed place = false := World.gone_of_unlisted unnamed
      simp only [Objects.without, stays, Bool.false_eq_true, ↓reduceIte, untouched.same]

/-- A row of such calls does so too. -/
theorem run_untouched (untouched : shelf.Untouched place before) {calls : List StoreCall}
    (unnamed : ∀ call ∈ calls, call.names place = false) :
    (shelf.run calls).2.Untouched place before := by
  induction calls generalizing shelf with
  | nil => exact untouched
  | cons call rest ih =>
    obtain ⟨first, later⟩ := List.forall_mem_cons.mp unnamed
    exact ih (perform_untouched untouched first) later

theorem run_cons (shelf : Shelf) (call : StoreCall) (rest : List StoreCall) :
    shelf.run (call :: rest) = ((shelf.perform call).1 :: ((shelf.perform call).2.run rest).1,
      ((shelf.perform call).2.run rest).2) :=
  rfl

/-- Calls can be made in two goes. -/
theorem run_append (shelf : Shelf) (early late : List StoreCall) :
    shelf.run (early ++ late) = ((shelf.run early).1 ++ ((shelf.run early).2.run late).1,
      ((shelf.run early).2.run late).2) := by
  induction early generalizing shelf with
  | nil => rfl
  | cons call rest ih =>
    rw [List.cons_append, run_cons, ih, run_cons]
    rfl

/-- A delete that succeeds takes away exactly the objects at its locations. -/
theorem perform_delete_ok (locations : Datum) (listed : Bool)
    (succeeded : (shelf.perform (.delete locations listed)).1 = .ok .nothing) :
    ∃ items parsed, locations.items = .ok items ∧
      items.mapM Datum.toObjectLocation = .ok parsed ∧
      (shelf.perform (.delete locations listed)).2.objects = shelf.objects.without
        fun place => parsed.any fun location => location.place == place := by
  unfold perform at succeeded ⊢
  dsimp only at succeeded ⊢
  cases fit : locations.items >>= fun items => items.mapM Datum.toObjectLocation with
  | error fault =>
    rw [fit] at succeeded
    cases succeeded
  | ok parsed =>
    rw [fit] at succeeded
    dsimp only at succeeded ⊢
    obtain ⟨items, had, parses⟩ := Except.bind_ok fit
    have ended : World.deleteResult parsed = .ok () := by
      cases result : World.deleteResult parsed with
      | ok nothing => rfl
      | error fault =>
        rw [result] at succeeded
        cases succeeded
    refine ⟨items, parsed, had, parses, ?_⟩
    rw [funext (World.gone_of_deleteResult_ok ended)]

/-- Closing the clients in between adds an answer, and nothing else. -/
theorem run_closing (shelf : Shelf) (early late : List StoreCall) :
    shelf.run (early ++ .closeClients :: late) =
      ((shelf.run (early ++ late)).1.insertIdx early.length (.ok .nothing),
        (shelf.run (early ++ late)).2) := by
  induction early generalizing shelf with
  | nil => rfl
  | cons call rest ih =>
    rw [List.cons_append, List.cons_append, run_cons, run_cons, ih, List.length_cons,
      List.insertIdx_succ_cons]

end Shelf

end ObjectStorage
