import Mathlib.Algebra.GroupWithZero.Nat
import ObjectStorage.Proofs.Entries
import ObjectStorage.Proofs.Locations.Reading
import ObjectStorage.Proofs.Routing.Turns

/-!
# Merging what failed

What failed in the turns of several stores is merged under the schemes of the stores' first
locations. No failure takes the place of another: stores that are told apart serve different
schemes, and a scheme has no colon, so it can be read off the name of a failure
(`keys_of_turns_nodup`). Nothing is lost but the turns that ended well, and the merged failure says
as exactly as the stores whether and when to retry (`Router.delete_merges`).
-/

namespace ObjectStorage

open Text Time

variable {τ : Type}

/-- The later of two instants is one of them, and neither is later still. -/
theorem Time.Instant.later_spec (first second : Instant) :
    (first.later second = first ∨ first.later second = second) ∧
      first.micros ≤ (first.later second).micros ∧
      second.micros ≤ (first.later second).micros := by
  unfold later
  split
  · next less => exact ⟨.inr rfl, Nat.le_of_lt less, Nat.le_refl _⟩
  · next notLess => exact ⟨.inl rfl, Nat.le_refl _, Nat.not_lt.mp notLess⟩

/-- The latest of some instants is one of them, and none is later. -/
theorem foldl_later (rest : List Instant) (first : Instant) :
    rest.foldl .later first ∈ first :: rest ∧
      ∀ hint ∈ first :: rest, hint.micros ≤ (rest.foldl .later first).micros := by
  induction rest generalizing first with
  | nil => simp
  | cons second rest ih =>
    obtain ⟨one, aboveFirst, aboveSecond⟩ := first.later_spec second
    obtain ⟨known, bounds⟩ := ih (first.later second)
    obtain ⟨top, others⟩ := List.forall_mem_cons.mp bounds
    rw [List.foldl_cons]
    refine ⟨?_, List.forall_mem_cons.mpr ⟨Nat.le_trans aboveFirst top,
      List.forall_mem_cons.mpr ⟨Nat.le_trans aboveSecond top, others⟩⟩⟩
    rcases List.mem_cons.mp known with same | behind
    · rw [same]
      rcases one with left | right
      · simp [left]
      · simp [right]
    · exact List.mem_cons_of_mem _ (List.mem_cons_of_mem _ behind)

/-- The latest of some instants is one of them, and none is later. -/
theorem latest?_eq_some_iff {hints : List Instant} {latest : Instant} :
    latest? hints = some latest ↔
      latest ∈ hints ∧ ∀ hint ∈ hints, hint.micros ≤ latest.micros := by
  cases hints with
  | nil => simp [latest?]
  | cons first rest =>
    obtain ⟨known, bounds⟩ := foldl_later rest first
    constructor
    · rintro ⟨⟩
      exact ⟨known, bounds⟩
    · rintro ⟨inside, above⟩
      have same : (rest.foldl .later first).micros = latest.micros :=
        Nat.le_antisymm (above _ known) (bounds latest inside)
      exact congrArg some (Instant.mk.injEq .. ▸ same)

/-- A batch is throttled if something failed and nothing but throttled failures is in it. -/
theorem StorageProblem.kind_batchDelete_iff {failures : List (Text × Fault)} :
    (StorageProblem.batchDelete failures).kind = .throttled ↔
      failures ≠ [] ∧ ∀ failure ∈ failures, failure.2.isThrottled = true := by
  have all_iff : (!failures.isEmpty && failures.all fun failure => failure.2.isThrottled) = true ↔
      failures ≠ [] ∧ ∀ failure ∈ failures, failure.2.isThrottled = true := by
    rw [Bool.and_eq_true, List.all_eq_true, Bool.not_eq_true', List.isEmpty_eq_false_iff]
  change (if !failures.isEmpty && failures.all fun failure => failure.2.isThrottled
    then FaultKind.throttled else FaultKind.fatal) = .throttled ↔ _
  rw [← all_iff]
  split
  · next all => exact ⟨fun _ => all, fun _ => rfl⟩
  · next notAll => exact ⟨nofun, fun all => (notAll all).elim⟩

/-- A scheme and what stands behind the mark can be read off their text. -/
theorem append_mark_inj {first second behind other : Text}
    (unmarked : CodePoint.char ':' ∉ first.points)
    (alsoUnmarked : CodePoint.char ':' ∉ second.points)
    (same : first ++ "://" ++ behind = second ++ "://" ++ other) :
    first = second ∧ behind = other := by
  have shape (scheme rest : Text) :
      (scheme ++ "://" ++ rest).points = scheme.points ++ Location.marked rest.points :=
    List.append_assoc ..
  have cut := congrArg (fun text : Text => Location.cutScheme? text.points) same
  simp only [shape, Location.cutScheme?_append unmarked, Location.cutScheme?_append alsoUnmarked,
    Option.some.injEq, Prod.mk.injEq] at cut
  exact ⟨congrArg Text.mk cut.1, congrArg Text.mk cut.2⟩

namespace Turn

/-- What failed in a turn, named by the scheme of the turn and the target of the failure. -/
def entries (turn : Turn) : List (Text × Fault) :=
  turn.failures.map fun failure => (leadScheme turn.members ++ "://" ++ failure.1, failure.2)

/-- When the throttled failures of a turn allow the next try. -/
def hints (turn : Turn) : List Instant :=
  turn.failures.filterMap fun failure => failure.2.throttledUntil?

/-- A turn that settles. If it ended in a batch, the batch has failures, and each has a target of
its own. -/
structure Mergeable (turn : Turn) : Prop where
  settles : turn.Settles
  filled : ∀ batch cause, turn.result = .error (.storage (.batchDelete batch) cause) → batch ≠ []
  distinct : ∀ batch cause, turn.result = .error (.storage (.batchDelete batch) cause) →
    (batch.map (·.1)).Nodup

variable {turn : Turn}

/-- A turn ends well, in a batch of failures, or in one failure of the store. -/
theorem Mergeable.ends (mergeable : turn.Mergeable) :
    (turn.result = .ok () ∧ turn.failures = []) ∨
      (∃ batch cause, turn.result = .error (.storage (.batchDelete batch) cause) ∧
        turn.failures = batch ∧ batch ≠ [] ∧ (batch.map (·.1)).Nodup) ∨
      ∃ problem cause, turn.result = .error (.storage problem cause) ∧
        turn.failures = [(("" : Text), .storage problem cause)] ∧
        (problem.kind = .throttled ↔ (Fault.storage problem cause).isThrottled = true) := by
  obtain ⟨store, members, result⟩ := turn
  obtain ⟨settles, filled, distinct⟩ := mergeable
  cases result with
  | ok nothing => exact .inl ⟨rfl, rfl⟩
  | error fault =>
    cases fault with
    | storage problem cause =>
      cases problem with
      | batchDelete batch =>
        exact .inr (.inl ⟨batch, cause, rfl, rfl, filled batch cause rfl, distinct batch cause rfl⟩)
      | invalidLocation problem => exact settles.elim
      | throttled resumeAt message =>
        exact .inr (.inr ⟨_, cause, rfl, rfl, fun _ => rfl, fun _ => rfl⟩)
      | unspecified | nonRetryable | probe => exact .inr (.inr ⟨_, cause, rfl, rfl, nofun, nofun⟩)
    | _ => exact settles.elim

/-- In a turn that can be merged no target has two failures. -/
theorem Mergeable.failures_nodup (mergeable : turn.Mergeable) :
    (turn.failures.map (·.1)).Nodup := by
  rcases mergeable.ends with ⟨_, failures⟩ | ⟨batch, _, _, failures, _, distinct⟩ |
    ⟨problem, cause, _, failures, _⟩
  · simp [failures]
  · rwa [failures]
  · simp [failures]

/-- It has failures exactly if it ended in a fault. -/
theorem Mergeable.failures_ne_nil_iff (mergeable : turn.Mergeable) :
    turn.failures ≠ [] ↔ ∃ fault, turn.result = .error fault := by
  rcases mergeable.ends with ⟨result, failures⟩ | ⟨batch, _, result, failures, filled, _⟩ |
    ⟨problem, cause, result, failures, _⟩
  · simp [result, failures]
  · simp [result, failures, filled]
  · simp [result, failures]

/-- What failed in a turn is throttled in all its parts if the failure of the turn is throttled. -/
theorem Mergeable.throttled_iff (mergeable : turn.Mergeable) :
    (∀ failure ∈ turn.failures, failure.2.isThrottled = true) ↔
      ∀ problem cause, turn.result = .error (.storage problem cause) →
        problem.kind = .throttled := by
  rcases mergeable.ends with ⟨result, failures⟩ | ⟨batch, _, result, failures, filled, _⟩ |
    ⟨problem, cause, result, failures, kind⟩
  · simp [result, failures]
  · simp [result, failures, StorageProblem.kind_batchDelete_iff, filled]
  · simp [result, failures, kind]

/-- The entries of a turn are named by its lead scheme and the targets. -/
theorem entries_map_fst (turn : Turn) : turn.entries.map (·.1) =
    (turn.failures.map (·.1)).map fun target => leadScheme turn.members ++ "://" ++ target := by
  simp only [entries, List.map_map, Function.comp_def]

/-- Each name begins with the lead scheme. -/
theorem name_of_entry (turn : Turn) {name : Text} (inside : name ∈ turn.entries.map (·.1)) :
    ∃ target, name = leadScheme turn.members ++ "://" ++ target := by
  rw [entries_map_fst] at inside
  obtain ⟨target, _, same⟩ := List.mem_map.mp inside
  exact ⟨target, same.symm⟩

/-- To merge turns one after the other is to put all of their entries. -/
theorem foldl_mergeInto (turns : List Turn) (failures : List (Text × Fault)) :
    turns.foldl mergeInto failures =
      (turns.flatMap entries).foldl (fun failures entry => putEntry failures entry.1 entry.2)
        failures := by
  rw [List.foldl_flatMap]
  congr 1
  funext failures turn
  rw [mergeInto, mergeBatch, entries, List.foldl_map]

variable {turns : List Turn}

/-- Turns end in all that failed in them if nothing in it takes the place of another. -/
theorem verdict_merged (distinct : ((turns.flatMap entries).map (·.1)).Nodup) :
    (verdict turns = .ok () ∧ turns.flatMap entries = []) ∨
      (verdict turns = .error (.storage (.batchDelete (turns.flatMap entries)) .nothing) ∧
        turns.flatMap entries ≠ []) := by
  rw [verdict, foldl_mergeInto, foldl_putEntry (by simpa using distinct), List.nil_append]
  by_cases calm : turns.flatMap entries = []
  · exact .inl ⟨batchEnd_ok_iff.mpr calm, calm⟩
  · exact .inr ⟨batchEnd_error_iff.mpr ⟨calm, rfl⟩, calm⟩

/-- There are entries exactly if some turn ended in a fault. -/
theorem flatMap_entries_ne_nil_iff (mergeable : ∀ turn ∈ turns, turn.Mergeable) :
    turns.flatMap entries ≠ [] ↔ ∃ turn ∈ turns, ∃ fault, turn.result = .error fault := by
  rw [Ne, List.flatMap_eq_nil_iff, not_forall₂]
  refine exists_congr fun turn => ?_
  rw [← exists_prop]
  refine exists_congr fun tried => ?_
  rw [← (mergeable turn tried).failures_ne_nil_iff]
  exact not_congr List.map_eq_nil_iff

/-- What failed in some turns is throttled as a whole exactly if every failing turn was. -/
theorem kind_merged_iff (mergeable : ∀ turn ∈ turns, turn.Mergeable)
    (fails : turns.flatMap entries ≠ []) :
    (StorageProblem.batchDelete (turns.flatMap entries)).kind = .throttled ↔
      ∀ turn ∈ turns, ∀ own why, turn.result = .error (.storage own why) →
        own.kind = .throttled := by
  rw [StorageProblem.kind_batchDelete_iff, and_iff_right fails, List.forall_mem_flatMap]
  refine forall₂_congr fun turn tried => ?_
  rw [← (mergeable turn tried).throttled_iff]
  exact List.forall_mem_map

/-- The merged failure can be tried again at the latest of the instants of the turns. -/
theorem resumeAt?_merged (turns : List Turn) :
    (StorageProblem.batchDelete (turns.flatMap entries)).resumeAt? =
      latest? (turns.flatMap hints) := by
  change latest? ((turns.flatMap entries).filterMap _) = _
  rw [List.filterMap_flatMap]
  congr 2
  funext turn
  exact List.filterMap_map

end Turn

/-- A location that was read from one of the texts goes to the store for its scheme, which has no
colon. -/
theorem scheme_served {routes : Routes} {texts : List Text} {routed : List (Location × Text)}
    (accepted : (texts.map Datum.text).mapM routes.routeObject = .ok routed) {location : Location}
    {store : Text} (known : (location, store) ∈ routed) :
    routes.byScheme.lookup location.scheme = some store ∧
      CodePoint.char ':' ∉ location.scheme.points := by
  obtain ⟨item, listed, fit⟩ := Except.mapM_ok accepted known
  obtain ⟨text, _, rfl⟩ := List.mem_map.mp listed
  obtain ⟨read, found, _⟩ := Routes.routeObject_ok fit
  have written := Location.Written.of_toLocation (by rintro own ⟨⟩) read
  exact ⟨found, Location.colon_of_isScheme written.schemed⟩

/-- So does the first location of an involved store. -/
theorem leadScheme_served {routes : Routes} {texts : List Text} {routed : List (Location × Text)}
    (accepted : (texts.map Datum.text).mapM routes.routeObject = .ok routed) {store : Text}
    (known : store ∈ involved routed) :
    routes.byScheme.lookup (leadScheme (locationsAt routed store)) = some store ∧
      CodePoint.char ':' ∉ (leadScheme (locationsAt routed store)).points := by
  obtain ⟨some, served⟩ := mem_involved.mp known
  cases own : locationsAt routed store with
  | nil =>
    have inside := mem_locationsAt.mpr served
    rw [own] at inside
    cases inside
  | cons first others =>
    have routedFirst : (first, store) ∈ routed :=
      mem_locationsAt.mp (own ▸ List.mem_cons_self)
    exact scheme_served accepted routedFirst

variable {router : Router τ} {texts : List Text} {routed : List (Location × Text)} {state : τ}

/-- All that failed in the turns has names of its own. -/
theorem keys_of_turns_nodup
    (accepted : (texts.map Datum.text).mapM router.routes.routeObject = .ok routed)
    {turns : List Turn} {after : τ} (shared : router.TurnByTurn routed state turns after)
    (mergeable : ∀ turn ∈ turns, turn.Mergeable) :
    ((turns.flatMap Turn.entries).map (·.1)).Nodup := by
  have served : ∀ turn ∈ turns,
      router.routes.byScheme.lookup (leadScheme turn.members) = some turn.store ∧
        CodePoint.char ':' ∉ (leadScheme turn.members).points := by
    intro turn tried
    rw [shared.members turn tried]
    exact leadScheme_served accepted (shared.involved tried)
  have apart : turns.Pairwise fun first second => first.store ≠ second.store :=
    List.pairwise_map.mp shared.once
  rw [List.map_flatMap]
  apply List.nodup_flatMap.mpr
  constructor
  · intro turn tried
    obtain ⟨_, unmarked⟩ := served turn tried
    rw [Turn.entries_map_fst]
    exact (mergeable turn tried).failures_nodup.map fun _ _ same =>
      (append_mark_inj unmarked unmarked same).2
  -- Failures of two stores under one name would have one scheme, and one store serves it.
  · refine apart.imp_of_mem fun {first second} tried alsoTried differ => ?_
    obtain ⟨found, unmarked⟩ := served first tried
    obtain ⟨alsoFound, alsoUnmarked⟩ := served second alsoTried
    intro key inFirst inSecond
    obtain ⟨target, rfl⟩ := first.name_of_entry inFirst
    obtain ⟨other, same⟩ := second.name_of_entry inSecond
    obtain ⟨schemes, _⟩ := append_mark_inj unmarked alsoUnmarked same
    rw [← schemes, found] at alsoFound
    exact differ (Option.some.inj alsoFound)

namespace Router

/-- What a batch delete by several stores comes to: who had a turn, what the delete ended in, and
the state it left. -/
structure Merges (router : Router τ) (routed : List (Location × Text)) (before : τ)
    (turns : List Turn) (result : Except Fault Unit) (after : τ) : Prop
    extends router.TurnByTurn routed before turns after where
  /-- The delete fails exactly if a turn does. -/
  fails_iff : (∃ fault, result = .error fault) ↔ ∃ turn ∈ turns, ∃ fault, turn.result = .error fault
  /-- Then it fails with all that failed in the turns. -/
  merged : ∀ fault, result = .error fault →
    fault = .storage (.batchDelete (turns.flatMap Turn.entries)) .nothing
  /-- No failure takes the place of another. -/
  distinct : ((turns.flatMap Turn.entries).map (·.1)).Nodup
  counted : (turns.flatMap Turn.entries).length = (turns.map fun turn => turn.failures.length).sum
  /-- It is throttled exactly if all that failed was. -/
  throttled_iff : ∀ problem cause, result = .error (.storage problem cause) →
    (problem.kind = .throttled ↔ ∀ turn ∈ turns, ∀ own why,
      turn.result = .error (.storage own why) → own.kind = .throttled)
  /-- The next try is put off until the last of the instants that were given. -/
  resumes_iff : ∀ problem cause, result = .error (.storage problem cause) → ∀ latest,
    problem.resumeAt? = some latest ↔ latest ∈ turns.flatMap Turn.hints ∧
      ∀ hint ∈ turns.flatMap Turn.hints, hint.micros ≤ latest.micros

/-- What the turns of a batch of texts end in is merged from all of them. -/
theorem merges_of_turns
    (accepted : (texts.map Datum.text).mapM router.routes.routeObject = .ok routed)
    {turns : List Turn} {after : τ} (shared : router.TurnByTurn routed state turns after)
    (mergeable : ∀ turn ∈ turns, turn.Mergeable) :
    router.Merges routed state turns (Turn.verdict turns) after := by
  have distinct := keys_of_turns_nodup accepted shared mergeable
  have fails_iff := Turn.flatMap_entries_ne_nil_iff mergeable
  have counted : (turns.flatMap Turn.entries).length =
      (turns.map fun turn => turn.failures.length).sum := by
    rw [List.length_flatMap]
    simp only [Turn.entries, List.length_map]
  rcases Turn.verdict_merged distinct with ⟨calm, nothing⟩ | ⟨fails, something⟩
  · rw [calm]
    refine ⟨shared, ?_, nofun, distinct, counted, nofun, nofun⟩
    rw [← fails_iff]
    exact ⟨nofun, fun something => (something nothing).elim⟩
  · rw [fails]
    refine ⟨shared, ?_, ?_, distinct, counted, ?_, ?_⟩
    · rw [← fails_iff]
      exact ⟨fun _ => something, fun _ => ⟨_, rfl⟩⟩
    · rintro fault ⟨⟩
      rfl
    · rintro problem cause ⟨⟩
      exact Turn.kind_merged_iff mergeable something
    · rintro problem cause ⟨⟩ latest
      rw [Turn.resumeAt?_merged]
      exact latest?_eq_some_iff

def late : Instant := ⟨2, by decide⟩

end Router

end ObjectStorage
