import ObjectStorage.Proofs.Clients.Registry

/-!
# Closing the clients of a pool

A pool that is closed keeps no client, whatever happens. It closes its clients one after the other,
and stops at the first that raises a fault; the clients behind it stay open, and nothing knows them
any more. So every client is closed exactly once if and only if none but the last one raises a fault
(`ClientPool.close_whole_iff`).
-/

namespace ObjectStorage

open Text Time

variable {σ : Type}

/-- The client that a request closes. -/
def Request.closed? : Request → Option Nat
  | .close client => some client
  | _ => none

/-- The clients that a journal tells were asked to close, each as often as it was. -/
def Journal.closings (journal : Journal) : List Nat :=
  journal.requests.filterMap Request.closed?

theorem Journal.closings_append (first second : Journal) :
    closings (first ++ second) = first.closings ++ second.closings := by
  unfold closings
  rw [requests_append, List.filterMap_append]

/-- The notes of a row of closings tell of the clients in the row. -/
theorem Journal.closings_map (clients : List Client) :
    closings (clients.map fun client => .request (.close client.number)) =
      clients.map (·.number) := by
  induction clients with
  | nil => rfl
  | cons client rest ih =>
    rw [List.map_cons, List.map_cons, ← ih]
    rfl

/-- The first of some closings lets the others go on, or is the last one. -/
theorem Closings.first {remote : Remote σ} {client : Client} {rest : List Client}
    {before after : σ} {result : Except Fault Unit}
    (closings : Closings remote before (client :: rest) result after) :
    (∃ between, remote.close client before = (.ok (), between) ∧
      Closings remote between rest result after) ∨
    (rest = [] ∧ ∃ fault, remote.close client before = (.error fault, after)) := by
  cases closings with
  | closed ran later => exact .inl ⟨_, ran, later⟩
  | raised ran => exact .inr ⟨rfl, _, ran⟩

/-- Closings that end in a fault do not go on behind it. -/
theorem Closings.left_eq_nil {remote : Remote σ} {before after last : σ}
    {tried left : List Client} {fault : Fault} {result : Except Fault Unit}
    (stopped : Closings remote before tried (.error fault) after)
    (whole : Closings remote before (tried ++ left) result last) : left = [] := by
  generalize ended : Except.error fault = outcome at stopped
  induction stopped with
  | nothing state => cases ended
  | closed ran later ih =>
    rcases whole.first with ⟨between, again, further⟩ | ⟨_, fault, failed⟩
    · obtain ⟨_, rfl⟩ := Prod.mk.inj (ran.symm.trans again)
      exact ih further ended
    · cases ran.symm.trans failed
  | raised failed =>
    rcases whole.first with ⟨between, ran, _⟩ | ⟨none_left, _⟩
    · cases failed.symm.trans ran
    · exact none_left

namespace ClientPool

variable {pool : ClientPool σ} {scene : Scene σ}

/-- The clients of a pool that can be closed, each as often as it is kept. -/
def closable (pool : ClientPool σ) (scene : Scene σ) : List Client :=
  (scene.pools pool.name).cached.filter (·.closable)

/-- The clients that closing goes through, in the order of first use. -/
def closingRow (pool : ClientPool σ) (scene : Scene σ) : List Client :=
  (scene.pools pool.name).inOrder.filter (·.closable)

/-- The row of a reachable pool has all its clients, and none of them too often. -/
theorem Reachable.closingRow_perm (reached : pool.Reachable scene) :
    (pool.closingRow scene).Perm (pool.closable scene) :=
  reached.tidy.inOrder_perm.filter _

/-- When a pool was closed, the journal tells of just those clients that it tried to close. -/
theorem Closes.closings {before after : Scene σ} {tried left : List Client}
    {result : Except Fault Unit} (closes : pool.Closes before tried left result after) :
    after.journal.closings = before.journal.closings ++ tried.map (·.number) := by
  have unsaid : (closingNotes (before.pools pool.name).inOrder result).closings = [] := by
    unfold closingNotes
    split
    · split <;> rfl
    · rfl
  rw [closes.journal, Journal.closings_append, Journal.closings_append, Journal.closings_map,
    unsaid, List.append_nil]

/-- A pool that is closed keeps no client. The clients of its row are closed up to the first that
raises a fault; so every client that can be closed is closed, each once, exactly if the row can be
gone through with a fault at its last client at most. -/
theorem close_whole_iff (reached : pool.Reachable scene) :
    ((pool.close scene).2.pools pool.name).clients = [] ∧
    (pool.closingRow scene).Perm (pool.closable scene) ∧
    ∃ tried left : List Client, pool.closingRow scene = tried ++ left ∧
      Closings pool.remote scene.remote tried (pool.close scene).1 (pool.close scene).2.remote ∧
      (pool.close scene).2.journal.closings =
        scene.journal.closings ++ tried.map (·.number) ∧
      (tried.Perm (pool.closable scene) ↔ ∃ result last,
        Closings pool.remote scene.remote (pool.closingRow scene) result last) := by
  have all := reached.closingRow_perm
  obtain ⟨tried, left, closes⟩ := pool.close_closes scene
  have split : pool.closingRow scene = tried ++ left := closes.split.symm
  have triedAll_iff : tried.Perm (pool.closable scene) ↔ left = [] := by
    constructor
    · intro triedAll
      have sizes := (triedAll.trans all.symm).length_eq
      rw [split, List.length_append] at sizes
      exact List.length_eq_zero_iff.mp (by omega)
    · rintro rfl
      rw [List.append_nil] at split
      exact split ▸ all
  refine ⟨?_, all, tried, left, split, closes.goes, closes.closings, ?_⟩
  · rw [closes.state]
    exact PoolState.forget_clients reached.tidy
  rw [triedAll_iff, split]
  constructor
  · rintro rfl
    rw [List.append_nil]
    exact ⟨_, _, closes.goes⟩
  · rintro ⟨result, last, whole⟩
    cases ended : (pool.close scene).1 with
    | ok nothing => exact closes.whole ended
    | error fault => exact (ended ▸ closes.goes).left_eq_nil whole

end ClientPool

/-- A service whose first client does not let itself be closed. It counts the clients made. -/
def stubbornService : Remote Nat where
  now _ := .beginning
  build _ made := (.ok (some ⟨made, true⟩), made + 1)
  headBucket _ _ := pure ()
  getObject _ _ _ := pure (.body [])
  putObject _ _ _ _ := pure ()
  deleteObjects _ _ _ := pure (.table [])
  close client :=
    if client.number = 0 then Act.fail (.mishap (.foreign "RuntimeError" "boom")) else pure ()

/-- A pool of the stubborn service, with options of its own for one bucket. -/
def stubbornPool : ClientPool Nat :=
  ⟨"pool", stubbornService, ⟨.empty, [("b", { ClientOptions.empty with region := .text "r" })], none⟩,
    .options⟩

/-- The pool was asked for the clients of two buckets. -/
def stubbornScene : Scene Nat :=
  (stubbornPool.clientAt (.text "b") (stubbornPool.clientAt (.text "a") (.start 0)).2).2

/-- The scene with the stubborn client is one that calls lead to. -/
theorem stubbornScene_reachable : stubbornPool.Reachable stubbornScene :=
  .asked _ (.asked _ (.unused rfl))

theorem ClientPool.close_whole_iff_stubbornPool : stubbornPool.Reachable stubbornScene ∧
    ((stubbornPool.close stubbornScene).2.pools stubbornPool.name).clients = [] ∧
    (stubbornPool.closingRow stubbornScene).Perm (stubbornPool.closable stubbornScene) ∧
    ∃ tried left : List Client, stubbornPool.closingRow stubbornScene = tried ++ left ∧
      Closings stubbornService stubbornScene.remote tried (stubbornPool.close stubbornScene).1
        (stubbornPool.close stubbornScene).2.remote ∧
      (stubbornPool.close stubbornScene).2.journal.closings =
        stubbornScene.journal.closings ++ tried.map (·.number) ∧
      (tried.Perm (stubbornPool.closable stubbornScene) ↔ ∃ result last,
        Closings stubbornService stubbornScene.remote (stubbornPool.closingRow stubbornScene)
          result last) :=
  ⟨stubbornScene_reachable, close_whole_iff stubbornScene_reachable⟩

/-- A client that raises a fault keeps the others from being closed, though none is known any
more. -/
theorem stubbornPool_close_leaves_client : stubbornPool.Reachable stubbornScene ∧
    stubbornPool.closable stubbornScene = [⟨0, true⟩, ⟨1, true⟩] ∧
    ((stubbornPool.close stubbornScene).2.pools stubbornPool.name).clients = [] ∧
    stubbornScene.journal.closings = [] ∧
    (stubbornPool.close stubbornScene).2.journal.closings = [0] :=
  ⟨stubbornScene_reachable, rfl, rfl, rfl, rfl⟩

end ObjectStorage
