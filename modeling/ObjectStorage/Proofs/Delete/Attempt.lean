import ObjectStorage.Proofs.Grouping
import ObjectStorage.Proofs.Surfacing

/-!
# Attempts at deleting

What a batch delete does in one bucket is an attempt: how the client came, the calls it made and
what they answered, and the failure that was recorded for the bucket. `Attempt.Faithful` says which
attempts there can be. One call for each piece of the keys is made, in order, until one raises a
fault (`Sent`); the failure is that fault as it surfaces or, if none was raised, the one for the
errors of single keys. A delete in one bucket is such an attempt (`BucketStore.deleteFrom_run`).
-/

namespace ObjectStorage

open Text Time

variable {σ : Type}

/-- What a delete request is answered with: nothing, or a table whose errors, if it has any, are
tables in a list. -/
inductive Datum.IsDeleteResponse : Datum → Prop
  | nothing : IsDeleteResponse .null
  | clean {entries : List (Text × Datum)} (absent : entries.lookup ("Errors" : Text) = none) :
    IsDeleteResponse (.table entries)
  | reporting {entries : List (Text × Datum)} {errors : List (List (Text × Datum))}
    (present : entries.lookup ("Errors" : Text) = some (.list (errors.map .table))) :
    IsDeleteResponse (.table entries)

/-- The errors for single keys that a response lists: the items of its `Errors`, if it is a table
that has a list there. -/
def Datum.listedErrors : Datum → List Datum
  | .table entries =>
    match entries.lookup ("Errors" : Text) with
    | some (.list errors) => errors
    | _ => []
  | _ => []

/-- The outcome of an exchange is one that a store can deal with. -/
def Exchange.Tame (store : BucketStore σ) (after : σ) : Exchange → Prop
  | .build _ (.ok _) => True
  | .build _ (.error fault) => store.CanJudge fault after
  | .delete _ _ _ (.ok response) => response.IsDeleteResponse
  | .delete _ _ _ (.error fault) => store.CanJudge fault after

/-- Whatever exchanges the service has from a state on, they come out tame. -/
def BucketStore.TameFrom (store : BucketStore σ) (start : σ) : Prop :=
  ∀ (exchanges : List Exchange) (between : σ) (exchange : Exchange) (after : σ),
    Dialogue store.pool.remote start exchanges between →
      exchange.Happens store.pool.remote between after → exchange.Tame store after

/-- What is tame from a state on is so from every later one. -/
theorem BucketStore.TameFrom.later {store : BucketStore σ} {start between : σ}
    {exchanges : List Exchange} (tame : store.TameFrom start)
    (dialogue : Dialogue store.pool.remote start exchanges between) : store.TameFrom between :=
  fun _ _ _ _ further happens => tame _ _ _ _ (dialogue.append further) happens

/-- A call to delete one piece of keys, and the response or the fault that came of it. -/
structure PieceCall where
  keys : List Text
  response : Except Fault Datum

namespace PieceCall

/-- The fault that a call raised. -/
def fault? (call : PieceCall) : Option Fault :=
  match call.response with
  | .ok _ => none
  | .error fault => some fault

/-- The errors for single keys that the response to a call lists. -/
def reported (call : PieceCall) : List Datum :=
  match call.response with
  | .ok response => response.listedErrors
  | .error _ => []

/-- A call as an exchange of a client. -/
def exchange (client : Client) (bucket : Text) (call : PieceCall) : Exchange :=
  .delete client bucket call.keys call.response

end PieceCall

/-- Pieces of keys are sent in order, up to the first whose call raises a fault. -/
inductive Sent : List (List Text) → List PieceCall → Prop
  | nothing : Sent [] []
  | answered {keys : List Text} {rest : List (List Text)} {calls : List PieceCall}
    (response : Datum) (later : Sent rest calls) :
    Sent (keys :: rest) (⟨keys, .ok response⟩ :: calls)
  | raised (keys : List Text) (unsent : List (List Text)) (fault : Fault) :
    Sent (keys :: unsent) [⟨keys, .error fault⟩]

/-- What a batch delete did in one bucket. -/
structure Attempt where
  bucket : Text
  keys : List Text
  opening : List Exchange
  client : Except Fault Client
  calls : List PieceCall
  failure? : Option (StorageProblem × Cause)

namespace Attempt

/-- The fault that ended an attempt: there is no client, or a call raised it. -/
def raised? (attempt : Attempt) : Option Fault :=
  match attempt.client with
  | .ok _ => attempt.calls.findSome? PieceCall.fault?
  | .error fault => some fault

/-- The errors for single keys that the responses of an attempt report. -/
def reported (attempt : Attempt) : List Datum :=
  attempt.calls.flatMap PieceCall.reported

/-- The exchanges of an attempt. -/
def exchanges (attempt : Attempt) : List Exchange :=
  attempt.opening ++ match attempt.client with
    | .ok client => attempt.calls.map (PieceCall.exchange client attempt.bucket)
    | .error _ => []

/-- The entry of an attempt among the failures of the batch. -/
def named? (attempt : Attempt) : Option (Text × Fault) :=
  attempt.failure?.map fun failure => (attempt.bucket, .storage failure.1 failure.2)

/-- What a delete in a bucket ends in. -/
def result (attempt : Attempt) : Except Fault Unit :=
  match attempt.failure? with
  | none => .ok ()
  | some (problem, cause) => .error (.storage problem cause)

/-- The error record for a bucket in which a delete failed. -/
def failureRecord (bucket : Text) (keys : Nat) (problem : StorageProblem) : Record where
  severity := .error
  logger := storeLogger
  message := "object_delete_failed bucket=" ++ bucket ++ " keys=" ++ natText keys ++ " kind=" ++
    problem.kind.name ++ " error=" ++ problem.text
  details := .table [("bucket", .text bucket), ("keys", .int keys),
    ("kind", .text problem.kind.name)]

/-- The error record of an attempt. -/
def record? (attempt : Attempt) : Option Record :=
  attempt.failure?.map fun failure =>
    failureRecord attempt.bucket attempt.keys.length failure.1

/-- The words in front of the failures of a bucket. -/
def words (bucket : Text) : Text :=
  "Failed to delete objects in " ++ bucket

/-- What an attempt of a store can be. -/
structure Faithful (store : BucketStore σ) (attempt : Attempt) : Prop where
  obtains : store.pool.Obtains "delete_objects" (.text attempt.bucket) attempt.opening
    attempt.client
  sent : ∀ client, attempt.client = .ok client →
    Sent (chunksOf batchLimit attempt.keys) attempt.calls
  unsent : ∀ fault, attempt.client = .error fault → attempt.calls = []
  surfaced : ∀ fault, attempt.raised? = some fault → ∃ problem cause,
    attempt.failure? = some (problem, cause) ∧
      store.Surfaces (words attempt.bucket) fault problem cause
  collected : attempt.raised? = none → attempt.reported ≠ [] → ∃ problem,
    BucketStore.keyErrorsFault attempt.bucket attempt.reported = .ok (.storage problem .nothing) ∧
      attempt.failure? = some (problem, .nothing)
  clean : attempt.raised? = none → attempt.reported = [] → attempt.failure? = none

end Attempt

namespace Datum

/-- A store reads the `Errors` of a table that has a list there. -/
theorem keyErrors_present {entries : List (Text × Datum)} {errors : List Datum}
    (present : entries.lookup ("Errors" : Text) = some (.list errors)) :
    BucketStore.keyErrors (.table entries) = .ok errors := by
  cases entries with
  | nil => cases present
  | cons entry rest =>
    change (do
      (Datum.orElse (← Datum.get (.table (entry :: rest)) "Errors") (.list [])).items) = _
    simp only [Datum.get, Datum.entry?, present]
    cases errors <;> rfl

/-- A store reads no errors where a table has no `Errors`. -/
theorem keyErrors_absent {entries : List (Text × Datum)}
    (absent : entries.lookup ("Errors" : Text) = none) :
    BucketStore.keyErrors (.table entries) = .ok [] := by
  cases entries with
  | nil => rfl
  | cons entry rest =>
    change (do
      (Datum.orElse (← Datum.get (.table (entry :: rest)) "Errors") (.list [])).items) = _
    simp only [Datum.get, Datum.entry?, absent]
    rfl

/-- What a store reads out of a delete response are the errors that it lists. -/
theorem IsDeleteResponse.keyErrors {response : Datum} (wellFormed : response.IsDeleteResponse) :
    BucketStore.keyErrors response = .ok response.listedErrors := by
  cases wellFormed with
  | nothing => rfl
  | clean absent => rw [keyErrors_absent absent, listedErrors, absent]
  | reporting present => rw [keyErrors_present present, listedErrors, present]

/-- The errors that a delete response lists are tables. -/
theorem IsDeleteResponse.listedErrors_tables {response : Datum}
    (wellFormed : response.IsDeleteResponse) :
    ∃ errors : List (List (Text × Datum)), response.listedErrors = errors.map .table := by
  cases wellFormed with
  | nothing => exact ⟨[], rfl⟩
  | clean absent => exact ⟨[], by rw [listedErrors, absent]; rfl⟩
  | @reporting entries errors present => exact ⟨errors, by rw [listedErrors, present]⟩

end Datum

/-- Errors that are tables have a text, and so a failure. -/
theorem BucketStore.keyErrorsFault_tables (bucket : Text) (errors : List (List (Text × Datum))) :
    ∃ message, BucketStore.keyErrorsFault bucket (errors.map .table) =
      .ok (.storage (.nonRetryable message false) .nothing) := by
  have shown : ∀ tables : List (List (Text × Datum)), ∃ texts,
      (tables.map Datum.table).mapM BucketStore.keyErrorText = .ok texts := by
    intro tables
    induction tables with
    | nil => exact ⟨[], rfl⟩
    | cons table rest ih =>
      obtain ⟨texts, later⟩ := ih
      obtain ⟨text, here⟩ : ∃ text, BucketStore.keyErrorText (.table table) = .ok text := ⟨_, rfl⟩
      refine ⟨text :: texts, ?_⟩
      rw [List.map_cons, List.mapM_cons, here, later]
      rfl
  obtain ⟨texts, read⟩ := shown (errors.take BucketStore.shownKeyErrors)
  unfold BucketStore.keyErrorsFault
  rw [← List.map_take, read]
  exact ⟨_, rfl⟩

namespace BucketStore

variable (store : BucketStore σ)

/-- The request to delete one piece of keys, as a store makes it. -/
def askToDelete (client : Client) (bucket : Text) (keys : List Text) : Act (Scene σ) Datum :=
  store.guarded (Attempt.words bucket)
    (Scene.ask (.deleteObjects client.number bucket keys)
      (store.pool.remote.deleteObjects client bucket keys))

/-- A request to delete one piece is one exchange. A response is the answer; a fault surfaces. -/
theorem askToDelete_run (client : Client) (bucket : Text) (keys : List Text) {scene : Scene σ}
    (tame : store.TameFrom scene.remote) :
    ∃ response result after, store.askToDelete client bucket keys scene = (result, after) ∧
      Scene.Unfolds store.pool scene [.delete client bucket keys response] [] after ∧
      ((∃ answer, response = .ok answer ∧ result = .ok answer ∧ answer.IsDeleteResponse) ∨
        ∃ fault problem cause, response = .error fault ∧
          result = .error (.storage problem cause) ∧
          store.Surfaces (Attempt.words bucket) fault problem cause) := by
  rcases acted : store.pool.remote.deleteObjects client bucket keys scene.remote with
    ⟨response, remote⟩
  have outcome := tame [] scene.remote (.delete client bucket keys response) remote rfl acted
  let act := Scene.ask (.deleteObjects client.number bucket keys)
    (store.pool.remote.deleteObjects client bucket keys)
  have ran : act scene = (response, (act scene).2) :=
    Prod.ext (by simp only [act, Scene.ask_apply, acted]) rfl
  have unfolds : Scene.Unfolds store.pool scene [.delete client bucket keys response] []
      (act scene).2 :=
    Scene.ask_unfolds (.delete client bucket keys response) (by rw [acted]; exact acted)
  cases response with
  | ok answer =>
    exact ⟨_, _, _, store.guarded_ok ran, unfolds, .inl ⟨answer, rfl, rfl, outcome⟩⟩
  | error fault =>
    have now : (act scene).2.remote = remote := by simp only [act, Scene.ask_apply, acted]
    obtain ⟨problem, cause, after, judged, surfaces, later⟩ :=
      store.guarded_fault (Attempt.words bucket) ran (now ▸ outcome)
    exact ⟨_, _, _, judged, unfolds.append later, .inr ⟨fault, problem, cause, rfl, rfl, surfaces⟩⟩

/-- One piece is sent, its errors are read, and the rest is sent behind it. -/
theorem deletePieces_cons (client : Client) (bucket : Text) (keys : List Text)
    (rest : List (List Text)) : store.deletePieces client bucket (keys :: rest) = do
      let errors ← Act.ofExcept (keyErrors (← store.askToDelete client bucket keys))
      return errors ++ (← store.deletePieces client bucket rest) := rfl

/-- Pieces are sent up to the first fault, which surfaces; without one all errors are collected. -/
theorem deletePieces_run (client : Client) (bucket : Text) (pieces : List (List Text))
    {scene : Scene σ} (tame : store.TameFrom scene.remote) :
    ∃ calls result after, store.deletePieces client bucket pieces scene = (result, after) ∧
      Sent pieces calls ∧
      Scene.Unfolds store.pool scene (calls.map (PieceCall.exchange client bucket)) [] after ∧
      (∀ fault, calls.findSome? PieceCall.fault? = some fault → ∃ problem cause,
        result = .error (.storage problem cause) ∧
          store.Surfaces (Attempt.words bucket) fault problem cause) ∧
      (calls.findSome? PieceCall.fault? = none → ∃ errors : List (List (Text × Datum)),
        calls.flatMap PieceCall.reported = errors.map .table ∧
          result = .ok (errors.map .table)) := by
  induction pieces generalizing scene with
  | nil =>
    refine ⟨[], .ok [], scene, rfl, .nothing, .quiet rfl rfl rfl, ?_, fun _ => ⟨[], rfl, rfl⟩⟩
    intro fault found
    cases found
  | cons keys rest ih =>
    obtain ⟨response, result, between, asked, unfolds, ⟨answer, rfl, rfl, wellFormed⟩ |
      ⟨fault, problem, cause, rfl, rfl, surfaces⟩⟩ := store.askToDelete_run client bucket keys tame
    · obtain ⟨errors, listed⟩ := wellFormed.listedErrors_tables
      obtain ⟨calls, result, after, ran, sent, later, raised, collected⟩ :=
        ih (tame.later unfolds.dialogue)
      have own : PieceCall.reported ⟨keys, .ok answer⟩ = errors.map .table := listed
      have skipped : (⟨keys, .ok answer⟩ :: calls).findSome? PieceCall.fault? =
          calls.findSome? PieceCall.fault? := rfl
      refine ⟨⟨keys, .ok answer⟩ :: calls, result.map fun more => errors.map .table ++ more, after,
        ?_, .answered answer sent, unfolds.append later, ?_, ?_⟩
      · rw [deletePieces_cons, Act.bind_ok asked, wellFormed.keyErrors, listed]
        simp only [Act.bind_apply, Act.ofExcept_apply, ran]
        cases result <;> rfl
      · intro fault found
        obtain ⟨problem, cause, rfl, surfaces⟩ := raised fault (skipped ▸ found)
        exact ⟨problem, cause, rfl, surfaces⟩
      · intro calm
        obtain ⟨more, others, rfl⟩ := collected (skipped ▸ calm)
        refine ⟨errors ++ more, ?_, ?_⟩
        · rw [List.flatMap_cons, own, others, List.map_append]
        · rw [List.map_append]
          rfl
    · refine ⟨[⟨keys, .error fault⟩], .error (.storage problem cause), between, ?_,
        .raised keys rest fault, unfolds, ?_, ?_⟩
      · rw [deletePieces_cons]
        exact Act.bind_error asked
      · rintro _ ⟨⟩
        exact ⟨problem, cause, rfl, surfaces⟩
      · intro calm
        cases calm

/-- A delete in a bucket is a faithful attempt, and ends in the failure that the attempt has. -/
theorem deleteFrom_run (bucket : Text) (keys : List Text) {scene : Scene σ}
    (tame : store.TameFrom scene.remote) :
    ∃ attempt : Attempt, ∃ after, attempt.bucket = bucket ∧ attempt.keys = keys ∧
      attempt.Faithful store ∧ Scene.Unfolds store.pool scene attempt.exchanges [] after ∧
      store.deleteFrom bucket keys scene = (attempt.result, after) := by
  obtain ⟨client, opening, opened, had, obtains, unfolds⟩ :=
    store.pool.clientWith_unfolds "delete_objects" (.text bucket) scene
  cases client with
  | error fault =>
    have judgeable : store.CanJudge fault opened.remote := by
      cases obtains with
      | refused identity =>
        obtain ⟨problem, rfl⟩ := StoreOptions.identityOf_error identity
        exact Fault.judgeable_storage ..
      | unkeyable identity changes => exact Fault.judgeable_mishap rfl ..
      | failed identity =>
        obtain ⟨_, happens, rfl⟩ := unfolds.dialogue
        exact tame [] _ _ _ rfl happens
      | missing identity => exact Fault.judgeable_mishap rfl ..
    obtain ⟨problem, cause, after, judged, surfaces, later⟩ :=
      store.guarded_fault (Attempt.words bucket) had judgeable
    refine ⟨⟨bucket, keys, opening, .error fault, [], some (problem, cause)⟩, after, rfl, rfl,
      ⟨obtains, nofun, fun _ _ => rfl, ?_, nofun, nofun⟩, ?_, ?_⟩
    · rintro _ ⟨⟩
      exact ⟨problem, cause, rfl, surfaces⟩
    · simpa [Attempt.exchanges] using unfolds.append later
    · exact Act.bind_error judged
  | ok client =>
    obtain ⟨calls, result, after, ran, sent, later, raised, collected⟩ :=
      store.deletePieces_run client bucket (chunksOf batchLimit keys)
        (tame.later unfolds.dialogue)
    have started : store.deleteFrom bucket keys scene = (do
        let errors ← store.deletePieces client bucket (chunksOf batchLimit keys)
        if !errors.isEmpty then
          Act.fail (← Act.ofExcept (keyErrorsFault bucket errors))) opened :=
      Act.bind_ok (store.guarded_ok had)
    have both := unfolds.append later
    cases found : calls.findSome? PieceCall.fault? with
    | some fault =>
      obtain ⟨problem, cause, rfl, surfaces⟩ := raised fault found
      refine ⟨⟨bucket, keys, opening, .ok client, calls, some (problem, cause)⟩, after, rfl, rfl,
        ⟨obtains, fun _ same => by cases same; exact sent, nofun, ?_, ?_, ?_⟩, both, ?_⟩
      · intro other raisedIt
        obtain rfl : fault = other := Option.some.inj (found.symm.trans raisedIt)
        exact ⟨problem, cause, rfl, surfaces⟩
      · intro calm
        cases found.symm.trans calm
      · intro calm
        cases found.symm.trans calm
      · rw [started]
        exact Act.bind_error ran
    | none =>
      obtain ⟨errors, own, rfl⟩ := collected found
      cases errors with
      | nil =>
        refine ⟨⟨bucket, keys, opening, .ok client, calls, none⟩, after, rfl, rfl,
          ⟨obtains, fun _ same => by cases same; exact sent, nofun, ?_, ?_, fun _ _ => rfl⟩,
          both, ?_⟩
        · intro other raisedIt
          cases found.symm.trans raisedIt
        · intro _ reported
          exact (reported own).elim
        · rw [started, Act.bind_ok ran]
          rfl
      | cons first rest =>
        obtain ⟨message, fault⟩ := keyErrorsFault_tables bucket (first :: rest)
        refine ⟨⟨bucket, keys, opening, .ok client, calls,
          some (.nonRetryable message false, .nothing)⟩, after, rfl, rfl,
          ⟨obtains, fun _ same => by cases same; exact sent, nofun, ?_, ?_, ?_⟩, both, ?_⟩
        · intro other raisedIt
          cases found.symm.trans raisedIt
        · intro _ _
          refine ⟨_, ?_, rfl⟩
          rw [← fault, ← own]
          rfl
        · intro _ clean
          cases own.symm.trans clean
        · rw [started, Act.bind_ok ran]
          simp only [List.map_cons, List.isEmpty_cons, Bool.not_false, ↓reduceIte]
          rw [Act.bind_apply, ← List.map_cons, fault]
          rfl

end BucketStore

end ObjectStorage
