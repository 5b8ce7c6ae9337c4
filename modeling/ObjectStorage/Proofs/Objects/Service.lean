import ObjectStorage.Proofs.Delete.Batch
import ObjectStorage.Proofs.Entries
import ObjectStorage.World

/-!
# Services that do as services do

A world is calm when no request is scripted to fail and what is scripted of the making and closing
of clients leaves them clients (`World.Calm`). Then every request does what services do, and what
an act does to the objects is said by what it answers and which objects there are then
(`Act.Reaches`).
-/

namespace ObjectStorage

open Text

variable {α β : Type}

/-- The objects of a service by their places, which are buckets and keys. -/
abbrev Objects := Text × Text → Option (List UInt8)

/-- The place of the object at a location. -/
def Location.place (location : Location) : Text × Text :=
  (location.authority, keyOfPath location.path)

namespace Objects

/-- Sets an object. -/
def set (objects : Objects) (place : Text × Text) (bytes : List UInt8) : Objects :=
  fun other => if other = place then some bytes else objects other

/-- Leaves out the objects at some places. -/
def without (objects : Objects) (gone : Text × Text → Bool) : Objects :=
  fun place => if gone place then none else objects place

/-- What is taken away in two goes can be taken away in one. -/
theorem without_without (objects : Objects) (first second : Text × Text → Bool) :
    (objects.without first).without second =
      objects.without fun place => first place || second place := by
  funext place
  cases early : first place <;> cases late : second place <;> simp [without, early, late]

end Objects

/-- The reactions that a script has to calls. -/
def Script.reactions : Script → List (Option Reaction)
  | .always reaction => [some reaction]
  | .each reactions => reactions

/-- A reaction after which a service is a service: none, anything given to the closing of a client,
or a client. -/
def Reaction.isCalm (key : Text) : Option Reaction → Bool
  | none => true
  | some (.fail _) => false
  | some (.give value) => key == "close" || key == "create" && !value.isText "none"

/-- All reactions of a script are calm. -/
def Script.Calm (key : Text) (script : Script) : Prop :=
  ∀ reaction ∈ script.reactions, Reaction.isCalm key reaction = true

/-- No call is scripted to fail, nor to answer as no service does. -/
def World.Calm (world : World) : Prop :=
  ∀ key script, world.scripts.lookup key = some script → script.Calm key

/-- A world is calm, and these are its objects. -/
structure World.Shows (world : World) (objects : Objects) : Prop where
  calm : world.Calm
  stored : ∀ place, world.objects.lookup place = objects place

/-- The next reaction of a calm script is calm, and so is the rest. -/
theorem Script.next_calm {key : Text} {script : Script} (calm : script.Calm key) :
    Reaction.isCalm key script.next.1 = true ∧ script.next.2.Calm key := by
  cases script with
  | always reaction => exact ⟨calm _ (List.mem_singleton_self _), calm⟩
  | each reactions =>
    cases reactions with
    | nil => exact ⟨rfl, calm⟩
    | cons reaction rest =>
      exact ⟨calm _ List.mem_cons_self, fun other inside => calm _ (List.mem_cons_of_mem _ inside)⟩

namespace World

variable {world : World} {objects : Objects}

/-- A calm script for a key reacts calmly and leaves a calm world. -/
theorem reactionAt_calm (shows : world.Shows objects) {key : Text} {reaction : Option Reaction}
    {after : World} (scripted : reactionAt key world = some (reaction, after)) :
    Reaction.isCalm key reaction = true ∧ after.Shows objects := by
  obtain ⟨script, found, reacted⟩ := Option.map_eq_some_iff.mp scripted
  obtain ⟨calm, still⟩ := Script.next_calm (shows.calm key script found)
  cases reacted
  exact ⟨calm, forall_lookup_putEntry shows.calm still, shows.stored⟩

/-- No key for an operation on a place is one for the making or closing of clients. -/
theorem placed_isCalm {operation place : Text} {reaction : Option Reaction}
    (calm : Reaction.isCalm (operation ++ "@" ++ place) reaction = true) : reaction = none := by
  have marked : CodePoint.char '@' ∈ (operation ++ "@" ++ place).points :=
    List.mem_append_left _ (List.mem_append_right _ List.mem_cons_self)
  have differs : ∀ key : Text, CodePoint.char '@' ∉ key.points →
      (operation ++ "@" ++ place == key) = false := by
    intro key unmarked
    exact beq_eq_false_iff_ne.mpr fun same => unmarked (same ▸ marked)
  cases reaction with
  | none => rfl
  | some reaction =>
    cases reaction with
    | fail fault => cases calm
    | give value =>
      rw [Reaction.isCalm, differs "close" (by decide), differs "create" (by decide)] at calm
      cases calm

/-- A calm world reacts calmly and shows the same objects afterwards. -/
theorem react_calm (shows : world.Shows objects) (operation : Text) (place : Option Text) :
    ∃ reaction between, react operation place world = (.ok reaction, between) ∧
      Reaction.isCalm operation reaction = true ∧ between.Shows objects := by
  unfold react
  cases placed : place.bind fun place => reactionAt (operation ++ "@" ++ place) world with
  | some reacted =>
    obtain ⟨reaction, between⟩ := reacted
    obtain ⟨given, rfl, scripted⟩ := Option.bind_eq_some_iff.mp placed
    obtain ⟨calm, still⟩ := reactionAt_calm shows scripted
    have silent : reaction = none := placed_isCalm calm
    exact ⟨reaction, between, rfl, silent ▸ rfl, still⟩
  | none =>
    cases scripted : reactionAt operation world with
    | some reacted =>
      obtain ⟨reaction, between⟩ := reacted
      obtain ⟨calm, still⟩ := reactionAt_calm shows scripted
      exact ⟨reaction, between, rfl, calm, still⟩
    | none => exact ⟨none, world, rfl, rfl, shows⟩

/-- A request of a client is answered as services do. -/
theorem act_calm (shows : world.Shows objects) (operation : Text) (place : Option Text)
    (opens : operation ≠ "create") (ends : operation ≠ "close") :
    ∃ between, (∀ (given : Datum → Act World α) (usual : Act World α),
      act operation place given usual world = usual between) ∧ between.Shows objects := by
  obtain ⟨reaction, between, reacted, calm, still⟩ := react_calm shows operation place
  have silent : reaction = none := by
    cases reaction with
    | none => rfl
    | some reaction =>
      cases reaction with
      | fail fault => cases calm
      | give value =>
        rw [Reaction.isCalm, beq_eq_false_iff_ne.mpr opens, beq_eq_false_iff_ne.mpr ends] at calm
        cases calm
  subst silent
  exact ⟨between, fun given usual => Act.bind_ok reacted, still⟩

/-- A calm world makes every client that it is asked for. -/
theorem build_calm (shows : world.Shows objects) :
    ∃ client after, World.build world = (.ok (some client), after) ∧ after.Shows objects := by
  have made : ∀ (closable : Bool) (between : World), between.Shows objects →
      ∃ client after, makeClient closable between = (.ok (some client), after) ∧
        after.Shows objects :=
    fun closable between still => ⟨_, _, rfl, still.calm, still.stored⟩
  obtain ⟨reaction, between, reacted, calm, still⟩ := react_calm shows "create" none
  unfold World.build World.act
  rw [Act.bind_ok reacted]
  cases reaction with
  | none => exact made true between still
  | some reaction =>
    cases reaction with
    | fail fault => cases calm
    | give value =>
      have client : value.isText "none" = false := by
        rw [Reaction.isCalm, beq_eq_false_iff_ne.mpr (by decide)] at calm
        simpa using calm
      dsimp only
      rw [client]
      exact made false between still

/-- It closes every client. -/
theorem closeClient_calm (shows : world.Shows objects) :
    ∃ after, World.closeClient world = (.ok (), after) ∧ after.Shows objects := by
  obtain ⟨reaction, between, reacted, calm, still⟩ := react_calm shows "close" none
  unfold World.closeClient World.act
  rw [Act.bind_ok reacted]
  cases reaction with
  | none => exact ⟨between, rfl, still⟩
  | some reaction =>
    cases reaction with
    | fail fault => cases calm
    | give value => exact ⟨between, rfl, still⟩

/-- What a service reports for an object that is not there. -/
def noSuchKey : Fault :=
  .reported "GetObject" "NoSuchKey" "The specified key does not exist." 404

/-- It answers with the object that it shows at a place. -/
theorem getObject_calm (shows : world.Shows objects) (bucket key : Text) :
    ∃ after, World.getObject bucket key world = (match objects (bucket, key) with
      | some bytes => .ok (.body bytes)
      | none => .error noSuchKey, after) ∧ after.Shows objects := by
  obtain ⟨between, asked, still⟩ :=
    act_calm shows "get_object" (some bucket) (by decide) (by decide)
  refine ⟨between, (asked ..).trans ?_, still⟩
  rw [Act.bind_apply]
  simp only [Act.get, still.stored]
  cases objects (bucket, key) <;> rfl

/-- It shows what was put at a place. -/
theorem putObject_calm (shows : world.Shows objects) (bucket key : Text) (body : List UInt8) :
    ∃ after, World.putObject bucket key body world = (.ok (), after) ∧
      after.Shows (objects.set (bucket, key) body) := by
  obtain ⟨between, asked, still⟩ :=
    act_calm shows "put_object" (some bucket) (by decide) (by decide)
  refine ⟨_, asked .., still.calm, fun place => ?_⟩
  have stored := still.stored place
  rw [lookup_lawful] at stored ⊢
  rw [lookup_putEntry, stored]
  rfl

/-- It shows nothing at the places of keys that were deleted. -/
theorem deleteObjects_calm (shows : world.Shows objects) (bucket : Text) (keys : List Text) :
    ∃ after, World.deleteObjects bucket keys world = (.ok (.table []), after) ∧
      after.Shows (objects.without fun place => place.1 == bucket && keys.contains place.2) := by
  obtain ⟨between, asked, still⟩ :=
    act_calm shows "delete_objects" (some bucket) (by decide) (by decide)
  refine ⟨_, asked .., still.calm, fun place => ?_⟩
  change (between.objects.filter fun entry =>
    !(entry.1.1 == bucket && keys.contains entry.1.2)).lookup place = _
  rw [lookup_filter_key (fun place : Text × Text => !(place.1 == bucket && keys.contains place.2)),
    still.stored, Objects.without]
  cases place.1 == bucket && keys.contains place.2 <;> rfl

end World

/-- From every scene whose world shows some objects, an act has a result and leaves a world that
shows others. -/
def Act.Reaches (act : Act (Scene World) α) (objects : Objects) (result : Except Fault α)
    (later : Objects) : Prop :=
  ∀ scene : Scene World, scene.remote.Shows objects →
    ∃ after, act scene = (result, after) ∧ after.remote.Shows later

namespace Act.Reaches

variable {act : Act (Scene World) α} {next : α → Act (Scene World) β}
  {objects between later : Objects} {answer : α} {fault : Fault} {result : Except Fault β}

/-- What an act reaches can be gone on from. -/
theorem bind (first : act.Reaches objects (.ok answer) between)
    (second : (next answer).Reaches between result later) :
    (act >>= next).Reaches objects result later := by
  intro scene shows
  obtain ⟨middle, ran, shows⟩ := first scene shows
  obtain ⟨after, ranNext, shows⟩ := second middle shows
  exact ⟨after, (Act.bind_ok ran).trans ranNext, shows⟩

/-- A fault is where it ends. -/
theorem bind_error (first : act.Reaches objects (.error fault) later) :
    (act >>= next).Reaches objects (.error fault) later := by
  intro scene shows
  obtain ⟨after, ran, shows⟩ := first scene shows
  exact ⟨after, Act.bind_error ran, shows⟩

/-- A result changes no object. -/
theorem ofExcept (result : Except Fault α) :
    (Act.ofExcept result : Act (Scene World) α).Reaches objects result objects :=
  fun scene shows => ⟨scene, rfl, shows⟩

theorem pure (answer : α) :
    (Pure.pure answer : Act (Scene World) α).Reaches objects (.ok answer) objects :=
  fun scene shows => ⟨scene, rfl, shows⟩

/-- A note changes no object. -/
theorem note (event : Event) : (Scene.note event).Reaches objects (.ok ()) objects :=
  fun _ shows => ⟨_, rfl, shows⟩

/-- An act reaches the same with its outcome in hand. -/
theorem outcome {result : Except Fault α} (reaches : act.Reaches objects result later) :
    act.outcome.Reaches objects (.ok result) later := by
  intro scene shows
  obtain ⟨after, ran, shows⟩ := reaches scene shows
  exact ⟨after, by rw [Act.outcome_apply, ran], shows⟩

/-- An act reaches the same when it is counted. -/
theorem tallied (operation : Operation) {result : Except Fault α}
    (reaches : act.Reaches objects result later) :
    (Scene.tallied operation act).Reaches objects result later := by
  refine reaches.outcome.bind ?_
  cases result with
  | ok answer => exact (note _).bind ((note _).bind (ofExcept _))
  | error fault =>
    cases fault with
    | storage problem cause => exact (note _).bind ((note _).bind (ofExcept _))
    | _ => exact (note _).bind (ofExcept _)

end Act.Reaches

end ObjectStorage
