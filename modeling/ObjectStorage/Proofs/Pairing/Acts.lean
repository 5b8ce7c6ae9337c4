import ObjectStorage.Proofs.Sink.Plan
import ObjectStorage.Router

/-!
# Pairs of acts

Two acts are a pair if, from related states, they end alike and in related states again
(`Act.Pairs`). Acts that are put together from pairs in the same way are a pair. So are the
operations of two stores that pair, those of routers in front of such stores, and the operations on
sinks that commit to them (`SinkOp.run_pairs`).
-/

namespace ObjectStorage

open Text

variable {τ α β γ δ : Type}

/-- Two results are alike: answers that are related, or the same fault. -/
inductive EndsAlike (related : α → β → Prop) : Except Fault α → Except Fault β → Prop
  | ok {answer : α} {other : β} (alike : related answer other) :
    EndsAlike related (.ok answer) (.ok other)
  | error (fault : Fault) : EndsAlike related (.error fault) (.error fault)

theorem EndsAlike.refl (result : Except Fault α) : EndsAlike Eq result result := by
  cases result with
  | ok answer => exact .ok rfl
  | error fault => exact .error fault

/-- Results that end alike with equal answers are equal. -/
theorem EndsAlike.eq {result other : Except Fault α} (alike : EndsAlike Eq result other) :
    result = other := by
  cases alike with
  | ok same => rw [same]
  | error fault => rfl

/-- Results that end alike do so for a wider relation of answers. -/
theorem EndsAlike.mono {related wider : α → β → Prop} {result : Except Fault α}
    {other : Except Fault β} (alike : EndsAlike related result other)
    (widens : ∀ answer otherAnswer, related answer otherAnswer → wider answer otherAnswer) :
    EndsAlike wider result other := by
  cases alike with
  | ok answers => exact .ok (widens _ _ answers)
  | error fault => exact .error fault

/-- From related states two acts end alike, and their states go on being related. -/
def Act.Pairs (kept : τ → τ → Prop) (related : α → β → Prop) (act : Act τ α) (other : Act τ β) :
    Prop :=
  ∀ state otherState, kept state otherState →
    EndsAlike related (act state).1 (other otherState).1 ∧
      kept (act state).2 (other otherState).2

namespace Act.Pairs

variable {kept : τ → τ → Prop} {related : α → β → Prop} {also : γ → δ → Prop} {act : Act τ α}
  {other : Act τ β}

theorem pure {answer : α} {otherAnswer : β} (alike : related answer otherAnswer) :
    Pairs kept related (Pure.pure answer) (Pure.pure otherAnswer) :=
  fun _ _ states => ⟨.ok alike, states⟩

/-- Acts that fail with the same fault pair. -/
theorem fail (fault : Fault) : Pairs kept related (Act.fail fault) (Act.fail fault) :=
  fun _ _ states => ⟨.error fault, states⟩

/-- Acts that end in results pair if the results end alike. -/
theorem ofExcept {result : Except Fault α} {otherResult : Except Fault β}
    (alike : EndsAlike related result otherResult) :
    Pairs kept related (Act.ofExcept result) (Act.ofExcept otherResult) :=
  fun _ _ states => ⟨alike, states⟩

/-- To look at the state shows states that are kept related. -/
theorem get : Pairs kept kept Act.get Act.get :=
  fun _ _ states => ⟨.ok states, states⟩

/-- Changes pair that keep the states related. -/
theorem modify {change otherChange : τ → τ}
    (keeps : ∀ state otherState, kept state otherState →
      kept (change state) (otherChange otherState)) :
    Pairs kept Eq (Act.modify change) (Act.modify otherChange) :=
  fun _ _ states => ⟨.ok rfl, keeps _ _ states⟩

/-- Acts that pair can be continued by acts that pair. -/
theorem bind {next : α → Act τ γ} {otherNext : β → Act τ δ} (first : act.Pairs kept related other)
    (later : ∀ answer otherAnswer, related answer otherAnswer →
      (next answer).Pairs kept also (otherNext otherAnswer)) :
    (act >>= next).Pairs kept also (other >>= otherNext) := by
  intro state otherState states
  obtain ⟨ends, between⟩ := first state otherState states
  rw [Act.bind_apply, Act.bind_apply]
  generalize act state = ran at ends between ⊢
  generalize other otherState = otherRan at ends between ⊢
  obtain ⟨result, middle⟩ := ran
  obtain ⟨otherResult, otherMiddle⟩ := otherRan
  dsimp only at ends
  cases ends with
  | ok alike => exact later _ _ alike _ _ between
  | error fault => exact ⟨.error fault, between⟩

/-- After the same answer, acts may go on with the answer itself. -/
theorem bind_same {act other : Act τ α} {next : α → Act τ γ} {otherNext : α → Act τ δ}
    (first : act.Pairs kept Eq other)
    (later : ∀ answer, (next answer).Pairs kept also (otherNext answer)) :
    (act >>= next).Pairs kept also (other >>= otherNext) := by
  refine first.bind ?_
  rintro answer _ rfl
  exact later answer

/-- The answers of acts that pair can be changed alike. -/
theorem map {next : α → γ} {otherNext : β → δ} (first : act.Pairs kept related other)
    (later : ∀ answer otherAnswer, related answer otherAnswer →
      also (next answer) (otherNext otherAnswer)) :
    (next <$> act).Pairs kept also (otherNext <$> other) := by
  rw [map_eq_pure_bind, map_eq_pure_bind]
  exact first.bind fun _ _ alike => .pure (later _ _ alike)

/-- Acts that pair do so with their outcomes in hand. -/
theorem outcome (pairs : act.Pairs kept related other) :
    act.outcome.Pairs kept (EndsAlike related) other.outcome := by
  intro state otherState states
  obtain ⟨ends, later⟩ := pairs state otherState states
  exact ⟨.ok ends, later⟩

/-- They do so with their faults caught. -/
theorem caught (pairs : act.Pairs kept related other) :
    act.caught.Pairs kept (EndsAlike related) other.caught := by
  intro state otherState states
  obtain ⟨ends, later⟩ := pairs state otherState states
  unfold Act.caught
  generalize act state = ran at ends later ⊢
  generalize other otherState = otherRan at ends later ⊢
  obtain ⟨result, after⟩ := ran
  obtain ⟨otherResult, otherAfter⟩ := otherRan
  dsimp only at ends
  cases ends with
  | ok alike => exact ⟨.ok (.ok alike), later⟩
  | error fault =>
    dsimp only
    split
    · exact ⟨.error fault, later⟩
    · exact ⟨.ok (.error fault), later⟩

/-- Acts on parts of states are a pair if the parts are related as long as the wholes are. -/
theorem onPart {υ : Type} {inner : υ → υ → Prop} {act : Act υ α} {other : Act υ β} {part : τ → υ}
    {put : τ → υ → τ} (pairs : act.Pairs inner related other)
    (parts : ∀ state otherState, kept state otherState → inner (part state) (part otherState))
    (puts : ∀ state otherState, kept state otherState → ∀ value otherValue,
      inner value otherValue → kept (put state value) (put otherState otherValue)) :
    (act.onPart part put).Pairs kept related (other.onPart part put) := by
  intro state otherState states
  obtain ⟨ends, later⟩ := pairs _ _ (parts state otherState states)
  exact ⟨ends, puts _ _ states _ _ later⟩

/-- Every act pairs with itself on equal states. -/
theorem refl (act : Act τ α) : act.Pairs Eq Eq act := by
  rintro state _ rfl
  exact ⟨.refl _, rfl⟩

/-- One act on equal parts of states. -/
theorem onPart_same {υ : Type} (act : Act υ α) {part : τ → υ} {put : τ → υ → τ}
    (parts : ∀ state otherState, kept state otherState → part state = part otherState)
    (puts : ∀ state otherState, kept state otherState → ∀ value,
      kept (put state value) (put otherState value)) :
    (act.onPart part put).Pairs kept Eq (act.onPart part put) := by
  refine (refl act).onPart parts fun _ _ states value _ same => ?_
  rw [← same]
  exact puts _ _ states value

/-- Acts that pair do so for a wider relation of answers. -/
theorem mono {wider : α → β → Prop} (pairs : act.Pairs kept related other)
    (widens : ∀ answer otherAnswer, related answer otherAnswer → wider answer otherAnswer) :
    act.Pairs kept wider other :=
  fun state otherState states => (pairs state otherState states).imp_left (·.mono widens)

/-- Of acts that pair with equal answers, one follows the other. -/
theorem follows {act other : Act τ α} (pairs : act.Pairs kept Eq other) :
    Act.Follows kept act other :=
  fun _ _ states => (pairs _ _ states).imp_left EndsAlike.eq

end Act.Pairs

/-- Sinks that go by the same name and pair when they are committed. -/
structure SinkTarget.Pairs (kept : τ → τ → Prop) (target other : SinkTarget τ) : Prop where
  name : target.name = other.name
  commit : ∀ payload, (target.commit payload).Pairs kept Eq (other.commit payload)

/-- Stores whose operations pair. -/
structure ObjectStore.Pairs (kept : τ → τ → Prop) (store other : ObjectStore τ) : Prop where
  ping : ∀ location, (store.ping location).Pairs kept Eq (other.ping location)
  read : ∀ location, (store.read location).Pairs kept Eq (other.read location)
  openSink : ∀ location,
    (store.openSink location).Pairs kept (SinkTarget.Pairs kept) (other.openSink location)
  delete : ∀ locations, (store.delete locations).Pairs kept Eq (other.delete locations)

namespace ObjectStore.Pairs

variable {kept : τ → τ → Prop} {store other : ObjectStore τ}

/-- To read the whole of an object pairs on stores that pair. -/
theorem readWhole (pairs : store.Pairs kept other) (location : Datum) :
    (store.readWhole location).Pairs kept Eq (other.readWhole location) := by
  refine (pairs.read location).bind_same fun body => ?_
  cases body with
  | stream bytes => exact .pure rfl
  | other value => exact .fail _

/-- So does to write one. -/
theorem writeWhole (pairs : store.Pairs kept other) (location : Datum)
    (data : Option (List UInt8)) :
    (store.writeWhole location data).Pairs kept Eq (other.writeWhole location data) := by
  refine (pairs.openSink location).bind fun target otherTarget targets => ?_
  cases data with
  | some bytes => exact targets.commit bytes
  | none => exact .fail _

end ObjectStore.Pairs

namespace Router

variable {kept : τ → τ → Prop} {router other : Router τ}

/-- Routers with stores that pair delete groups alike. -/
theorem deleteGroups_pairs (stores : ∀ name, (router.stores name).Pairs kept (other.stores name))
    (groups : List (Text × List Location)) (failures : List (Text × Fault)) :
    (router.deleteGroups failures groups).Pairs kept Eq (other.deleteGroups failures groups) := by
  induction groups generalizing failures with
  | nil => exact .pure rfl
  | cons group rest ih =>
    obtain ⟨store, members⟩ := group
    refine Act.Pairs.bind ((stores store).delete _).outcome fun result otherResult ends => ?_
    obtain rfl := ends.eq
    split
    · exact ih _
    · exact ih _
    · exact .fail _
    · exact ih _
    · exact .fail _

/-- Routers that go by the same routes pair if their stores do. -/
theorem pairs (routes : router.routes = other.routes)
    (stores : ∀ name, (router.stores name).Pairs kept (other.stores name)) :
    router.toObjectStore.Pairs kept other.toObjectStore := by
  obtain ⟨ways, backends⟩ := router
  obtain ⟨otherWays, otherBackends⟩ := other
  obtain rfl : ways = otherWays := routes
  constructor
  · intro location
    exact .bind_same (.ofExcept (.refl _)) fun routed => (stores routed.2).ping _
  · intro location
    exact .bind_same (.ofExcept (.refl _)) fun routed => (stores routed.2).read _
  · intro location
    exact .bind_same (.ofExcept (.refl _)) fun routed => (stores routed.2).openSink _
  · intro locations
    refine .bind_same (.ofExcept (.refl _)) fun items => ?_
    refine .bind_same (.ofExcept (.refl _)) fun routed => ?_
    split
    · exact (stores _).delete _
    · refine .bind_same (deleteGroups_pairs stores _ _) fun failures => ?_
      split
      · exact .fail _
      · exact .pure rfl

end Router

section Sinks

variable {kept : τ → τ → Prop} {commit otherCommit : List UInt8 → Act (Sink × τ) Unit}

/-- The same sink beside related states. -/
def Beside (kept : τ → τ → Prop) (state other : Sink × τ) : Prop :=
  state.1 = other.1 ∧ kept state.2 other.2

/-- What a sink does alone pairs with itself, whatever is beside the sink. -/
theorem Sink.alone_pairs (act : Act Sink α) :
    (Sink.alone act).Pairs (Beside kept) Eq (Sink.alone act) :=
  .onPart_same act (fun _ _ states => states.1) fun _ _ states _ => ⟨rfl, states.2⟩

/-- To close a sink pairs if the commits do. -/
theorem Sink.close_pairs
    (commits : ∀ payload, (commit payload).Pairs (Beside kept) Eq (otherCommit payload)) :
    (Sink.close commit).Pairs (Beside kept) Eq (Sink.close otherCommit) := by
  refine Act.Pairs.get.bind ?_
  rintro ⟨sink, state⟩ ⟨_, otherState⟩ ⟨rfl, _⟩
  dsimp only
  split
  · exact .pure rfl
  · refine (alone_pairs _).bind_same fun _ => ?_
    refine (commits _).outcome.bind fun result otherResult ends => ?_
    obtain rfl := ends.eq
    exact (alone_pairs _).bind_same fun _ => .ofExcept (.refl _)

/-- A use of a sink pairs with the same use. -/
theorem SinkUse.run_pairs
    (commits : ∀ payload, (commit payload).Pairs (Beside kept) Eq (otherCommit payload))
    (deed : SinkUse) :
    (deed.run commit).Pairs (Beside kept) Eq (deed.run otherCommit) := by
  have closing : (do
      Sink.close commit
      return SinkAnswer.nothing).Pairs (Beside kept) Eq (do
      Sink.close otherCommit
      return SinkAnswer.nothing) :=
    (Sink.close_pairs commits).bind_same fun _ => .pure rfl
  have aborting : (do
      Sink.alone Sink.abort
      return SinkAnswer.nothing : Act (Sink × τ) SinkAnswer).Pairs (Beside kept) Eq (do
      Sink.alone Sink.abort
      return SinkAnswer.nothing) :=
    (Sink.alone_pairs _).bind_same fun _ => .pure rfl
  cases deed with
  | write data => exact (Sink.alone_pairs _).map fun _ _ same => congrArg _ same
  | flush => exact (Sink.alone_pairs _).bind_same fun _ => .pure rfl
  | tell => exact (Sink.alone_pairs _).map fun _ _ same => congrArg _ same
  | close => exact closing
  | abort => exact aborting
  | leave fault? =>
    cases fault? with
    | none => exact closing
    | some fault => exact aborting
  | look read =>
    refine Act.Pairs.get.bind ?_
    rintro ⟨sink, state⟩ ⟨_, otherState⟩ ⟨rfl, _⟩
    exact .pure rfl

/-- An operation on a sink pairs with the same operation. -/
theorem SinkOp.run_pairs
    (commits : ∀ payload, (commit payload).Pairs (Beside kept) Eq (otherCommit payload))
    (operation : SinkOp) :
    (operation.run commit).Pairs (Beside kept) Eq (operation.run otherCommit) := by
  intro state otherState states
  have follows := SinkPlan.run_follows (fun deed => (SinkUse.run_pairs commits deed).follows)
    operation.plan state otherState states
  rw [← outcome_run, ← outcome_run, Act.outcome_apply, Act.outcome_apply] at follows
  obtain ⟨same, later⟩ := follows
  have ends : (operation.run commit state).1 = (operation.run otherCommit otherState).1 :=
    Except.ok.inj same
  exact ⟨ends ▸ .refl _, later⟩

end Sinks

end ObjectStorage
