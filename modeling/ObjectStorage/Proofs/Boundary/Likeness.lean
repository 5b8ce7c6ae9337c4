import ObjectStorage.Proofs.Boundary.Refusals
import ObjectStorage.Proofs.Clients.Asking

/-!
# Likeness

Two acts seem alike to the service and to the caller (`Act.SeemsLike`) if they ask for the same in
the same order and end alike; two that turn a location down do so, whatever they find wrong with it.
A store turns down what is no place for an operation, and goes on with anything else: then it does
not end in a refusal before it has asked for something (`BucketStore.read_goesOn`).
-/

namespace ObjectStorage

open Text

variable {σ α β : Type}

/-- Two acts on a scene seem alike: they end with the same result, or both refuse a location, and in
between they ask for the same and leave the service and its pools alike. -/
structure Act.SeemsLike (first second : Act (Scene σ) α) (scene : Scene σ) : Prop where
  ends : (first scene).1 = (second scene).1 ∨
    IsRefusal (first scene).1 ∧ IsRefusal (second scene).1
  requests : (first scene).2.journal.requests = (second scene).2.journal.requests
  remote : (first scene).2.remote = (second scene).2.remote
  pools : (first scene).2.pools = (second scene).2.pools

/-- An act refuses a location and does nothing else, but that it may count that. -/
def Act.TurnsDown (act : Act (Scene σ) α) (scene : Scene σ) : Prop :=
  ∃ problem notes, Journal.requests notes = [] ∧
    act scene = (.error (.ofLocation problem), { scene with journal := scene.journal ++ notes })

/-- An act shows that it did not just turn a location down: if it ends in a refusal, something was
asked for. -/
def Act.GoesOn (act : Act (Scene σ) α) (scene : Scene σ) : Prop :=
  IsRefusal (act scene).1 → (act scene).2.journal.requests ≠ scene.journal.requests

namespace Act

variable {first second third : Act (Scene σ) α} {scene : Scene σ}

/-- An act that turns a location down ends in a refusal. -/
theorem TurnsDown.refuses (down : first.TurnsDown scene) : IsRefusal (first scene).1 := by
  obtain ⟨problem, notes, _, ran⟩ := down
  exact ⟨problem, .nothing, congrArg Prod.fst ran⟩

/-- It has asked for nothing. -/
theorem TurnsDown.requests (down : first.TurnsDown scene) :
    (first scene).2.journal.requests = scene.journal.requests := by
  obtain ⟨problem, notes, silent, ran⟩ := down
  rw [ran, Journal.requests_append, silent, List.append_nil]

theorem SeemsLike.of_eq (same : first scene = second scene) : first.SeemsLike second scene := by
  constructor
  · exact .inl (congrArg Prod.fst same)
  · rw [same]
  · rw [same]
  · rw [same]

/-- Which of two acts comes first makes no difference to whether they seem alike. -/
theorem SeemsLike.symm (seems : first.SeemsLike second scene) : second.SeemsLike first scene :=
  ⟨seems.ends.imp Eq.symm And.symm, seems.requests.symm, seems.remote.symm, seems.pools.symm⟩

/-- Acts that seem like the same act seem alike. -/
theorem SeemsLike.trans (left : first.SeemsLike second scene)
    (right : second.SeemsLike third scene) : first.SeemsLike third scene := by
  refine ⟨?_, left.requests.trans right.requests, left.remote.trans right.remote,
    left.pools.trans right.pools⟩
  rcases left.ends with same | ⟨refused, also⟩
  · rw [same]
    exact right.ends
  · rcases right.ends with same | ⟨_, refusedToo⟩
    · exact .inr ⟨refused, same ▸ also⟩
    · exact .inr ⟨refused, refusedToo⟩

/-- Counting an operation makes no difference to how it seems. -/
theorem SeemsLike.of_tallied (operation : Operation) :
    (Scene.tallied operation first).SeemsLike first scene := by
  rcases ran : first scene with ⟨result, between⟩
  obtain ⟨counters, counted⟩ := Scene.tallied_counts operation ran
  refine ⟨.inl ?_, ?_, ?_, ?_⟩
  all_goals rw [counted, ran]
  rw [Journal.requests_append, Journal.requests_counts, List.append_nil]

/-- Acts that turn a location down seem alike, whatever they find wrong with it. -/
theorem SeemsLike.of_turnsDown (down : first.TurnsDown scene) (alsoDown : second.TurnsDown scene) :
    first.SeemsLike second scene := by
  refine ⟨.inr ⟨down.refuses, alsoDown.refuses⟩, down.requests.trans alsoDown.requests.symm, ?_, ?_⟩
  all_goals
    obtain ⟨_, _, _, ran⟩ := down
    obtain ⟨_, _, _, alsoRan⟩ := alsoDown
    rw [ran, alsoRan]

/-- An act that goes on does not seem like one that turns its location down. -/
theorem TurnsDown.not_seemsLike (down : first.TurnsDown scene) (goes : second.GoesOn scene) :
    ¬ first.SeemsLike second scene := by
  intro seems
  have refused : IsRefusal (second scene).1 := by
    rcases seems.ends with same | ⟨_, refused⟩
    · exact same ▸ down.refuses
    · exact refused
  exact goes refused (seems.requests.symm.trans down.requests)

/-- Counting an operation does not hide what it asked for. -/
theorem GoesOn.tallied (goes : first.GoesOn scene) (operation : Operation) :
    (Scene.tallied operation first).GoesOn scene := by
  rcases ran : first scene with ⟨result, between⟩
  obtain ⟨after, counted, quietly⟩ := Scene.tallied_run operation ran
  unfold GoesOn at goes ⊢
  rw [counted, quietly]
  rwa [ran] at goes

/-- Nor does looking into an answer, which blames no location. -/
theorem GoesOn.bind_ofExcept {next : α → Except Fault β} (goes : first.GoesOn scene)
    (outside : ∀ answer, FailsOutside (next answer)) :
    (first >>= fun answer => Act.ofExcept (next answer)).GoesOn scene := by
  rcases ran : first scene with ⟨result, between⟩
  unfold GoesOn at goes ⊢
  rw [ran] at goes
  cases result with
  | error fault =>
    rw [Act.bind_error ran]
    exact fun refused => goes refused.of_error
  | ok answer =>
    rw [Act.bind_ok ran]
    exact fun refused => ((outside answer).not_refusal refused).elim

end Act

namespace BucketStore

variable {store : BucketStore σ} {scene : Scene σ} {source : Datum}

/-- An operation that refuses what is unfit turns an unfit item down, if the notes it takes on that
are no requests. -/
theorem Refuses.turnsDown {operation : BucketStore σ → Act (Scene σ) α} {notes : Journal}
    {unfit : Prop} (refuses : Refuses operation store scene notes unfit)
    (silent : notes.requests = []) (isUnfit : unfit) : (operation store).TurnsDown scene := by
  obtain ⟨problem, ran⟩ := refuses.untouched isUnfit
  exact ⟨problem, notes, silent, ran store⟩

/-- An operation that refuses only what is unfit goes on with anything else. -/
theorem Refuses.goesOn {operation : BucketStore σ → Act (Scene σ) α} {notes : Journal}
    {unfit : Prop} (refuses : Refuses operation store scene notes unfit) (fit : ¬ unfit) :
    (operation store).GoesOn scene :=
  fun refused => (fit (refuses.refuses_iff.mp refused)).elim

/-- A read turns down what is no place of an object. -/
theorem read_turnsDown (objectless : source.Objectless) : (store.read source).TurnsDown scene := by
  obtain ⟨fault, refused⟩ := Datum.toObjectLocation_error_iff.mpr objectless
  obtain ⟨problem, rfl⟩ := Datum.toObjectLocation_error refused
  refine ⟨problem, refusalNotes .read, rfl, ?_⟩
  unfold read
  rw [refused]
  exact tallied_refused ..

/-- A guard asks for nothing. -/
theorem guarded_requests (message : Text) (act : Act (Scene σ) α) :
    (store.guarded message act scene).2.journal.requests =
      (act scene).2.journal.requests := by
  rcases ran : act scene with ⟨result, after⟩
  cases result with
  | ok answer => rw [store.guarded_ok ran]
  | error fault =>
    by_cases interrupts : fault.isInterrupt = true
    · rw [store.guarded_interrupted ran interrupts]
    · rw [store.guarded_judged ran (by simpa using interrupts)]
      have judged : (failJudged (α := α) ⟨store.pool.remote.now after.remote,
          store.pool.options.retryAfter, message⟩ fault).AsksOnly after fun _ => False :=
        .failJudged _ _
      obtain ⟨asked, told, none⟩ := judged
      rw [told, List.eq_nil_iff_forall_not_mem.mpr none, List.append_nil]

/-- Fetching an object asks for something, or it fails for a reason other than its location. -/
theorem fetch_goesOn {location : Location}
    (named : location.needAuthority = .ok location.authority) :
    FailsOutside (store.fetch location scene).1 ∨
      (store.fetch location scene).2.journal.requests ≠ scene.journal.requests := by
  obtain ⟨client, exchanges, opened, got, obtains, unfolds⟩ :=
    store.pool.clientWith_unfolds "get_object" (.location location) scene
  unfold fetch
  cases client with
  | error fault =>
    rw [Act.bind_error got]
    cases obtains with
    | refused identity => cases (identityOf_location named).symm.trans identity
    | unkeyable identity changes => exact .inl (.mishap _)
    | missing identity => exact .inl (.mishap _)
    | failed identity =>
      right
      rw [unfolds.requests]
      simp
  | ok client =>
    right
    rw [Act.bind_ok got, Scene.ask_apply]
    change Journal.requests (opened.journal ++ _) ≠ _
    rw [Journal.requests_append, unfolds.requests, List.append_assoc]
    simp [Journal.requests, Event.request?]

/-- What fails for another reason than its location or asks for something goes on behind a guard. -/
theorem guarded_goesOn (message : Text) {act : Act (Scene σ) α}
    (shows : FailsOutside (act scene).1 ∨
      (act scene).2.journal.requests ≠ scene.journal.requests) :
    (store.guarded message act).GoesOn scene := by
  intro refused
  rw [guarded_requests]
  exact shows.resolve_left fun outside => store.guarded_not_refusal message outside refused

/-- A read goes on with any place of an object. -/
theorem read_goesOn (fit : ¬ source.Objectless) : (store.read source).GoesOn scene := by
  cases accepted : source.toObjectLocation with
  | error fault => exact (fit (Datum.toObjectLocation_error_iff.mp ⟨fault, accepted⟩)).elim
  | ok location =>
    have fetched : (store.guarded ("Failed to read " ++ location.text)
        (store.fetch location)).GoesOn scene :=
      guarded_goesOn _ (fetch_goesOn (Datum.toObjectLocation_ok accepted).2.2.1)
    unfold read
    rw [accepted]
    exact (fetched.bind_ofExcept bodyOf_outside).tallied .read

end BucketStore

end ObjectStorage
