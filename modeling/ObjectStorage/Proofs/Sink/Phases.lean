import Mathlib.Data.List.Destutter
import ObjectStorage.Proofs.Sink.Uses

/-!
# Phases of a sink

A sink that is filmed is looked at before and after each use, also those that a commit makes of it,
and when a commit begins and ends. A film shows the sink open first, and then aborted, or closing
and closed, and nothing else, and with a buffer only while it is open (`SinkOp.runAll_orderly`).
What a commit does with the sink in its turn finds it closing and leaves it so, and however the
commit ends, the close that made it leaves the sink closed.
-/

namespace ObjectStorage

variable {τ α : Type}

/-- What a row goes through behind a first item gets one more item, unless that is its last one
already. -/
theorem List.destutter'_concat {ρ : Type} [DecidableEq ρ] (first : ρ) (row : List ρ) (item : ρ) :
    (row ++ [item]).destutter' (· ≠ ·) first =
      if (row.destutter' (· ≠ ·) first).getLast? = some item then row.destutter' (· ≠ ·) first
      else row.destutter' (· ≠ ·) first ++ [item] := by
  induction row generalizing first with
  | nil => by_cases same : first = item <;> simp [same]
  | cons next rest ih =>
    by_cases same : first = next
    · simp only [List.cons_append, List.destutter'_cons, same, ne_eq, not_true_eq_false,
        ↓reduceIte, ih]
    · have filled : rest.destutter' (· ≠ ·) next ≠ [] := List.destutter'_ne_nil _ _
      simp only [List.cons_append, List.destutter'_cons, ne_eq, same, not_false_eq_true,
        ↓reduceIte, ih, List.getLast?_cons_of_ne_nil filled]
      split <;> rfl

/-- A row with one more item goes through one more item, unless that is its last one already. -/
theorem List.destutter_concat {ρ : Type} [DecidableEq ρ] (row : List ρ) (item : ρ) :
    (row ++ [item]).destutter (· ≠ ·) =
      if (row.destutter (· ≠ ·)).getLast? = some item then row.destutter (· ≠ ·)
      else row.destutter (· ≠ ·) ++ [item] := by
  cases row with
  | nil => simp
  | cons first rest => exact List.destutter'_concat first rest item

namespace Phase

/-- The names of the phases on the way to a phase. -/
def path : Phase → List String
  | .collecting => ["open"]
  | .closing => ["open", "closing"]
  | .closed => ["open", "closing", "closed"]
  | .aborted => ["open", "aborted"]

/-- The way to a phase ends with it. -/
theorem getLast?_path (phase : Phase) : phase.path.getLast? = some phase.name := by
  cases phase <;> rfl

/-- No phase is passed twice on the way to one. -/
theorem nodup_path (phase : Phase) : phase.path.Nodup := by
  cases phase <;> simp [path]

/-- Only the collecting phase has the name open. -/
theorem name_eq_open_iff {phase : Phase} : phase.name = "open" ↔ phase = .collecting := by
  cases phase <;> simp [name]

/-- A phase has the name of another, or is the next on the way. -/
def Leads (phase next : Phase) : Prop :=
  next.path = phase.path ∨ next.path = phase.path ++ [next.name]

end Phase

/-- A moment at which a sink is looked at. The end of a use tells what the use found. -/
inductive SinkMoment
  | begins (deed : SinkUse)
  | ends (deed : SinkUse) (found : Sink) (result : Except Fault SinkAnswer)
  | commits
  | committed

/-- What is seen of a sink at a moment, be it within a commit or not. -/
structure SinkSight where
  within : Bool
  moment : SinkMoment
  sink : Sink

/-- What is seen of a sink, the oldest sight first. -/
abbrev SinkFilm := List SinkSight

/-- Looks at the sink. -/
def SinkSight.take (within : Bool) (moment : SinkMoment) : Act (Sink × SinkFilm) Unit :=
  Act.modify fun state => (state.1, state.2 ++ [⟨within, moment, state.1⟩])

/-- Makes a use of a sink and looks at it before and after. -/
def SinkUse.filmed (within : Bool) (commit : List UInt8 → Act (Sink × SinkFilm) Unit)
    (deed : SinkUse) : Act (Sink × SinkFilm) SinkAnswer := do
  let (found, _) ← Act.get
  SinkSight.take within (.begins deed)
  let result ← (deed.run commit).outcome
  SinkSight.take within (.ends deed found result)
  Act.ofExcept result

/-- What a commit does with the sink in its turn, and what it comes to. -/
abbrev SinkCommit := List UInt8 → SinkPlan (Except Fault Unit)

namespace SinkCommit

/-- Carries a commit out. A commit made from within it is any act. -/
def run (callback : SinkCommit) (again : List UInt8 → Act (Sink × τ) Unit)
    (payload : List UInt8) : Act (Sink × τ) Unit := do
  Act.ofExcept (← (callback payload).run (SinkUse.run again))

/-- Carries a commit out and looks at the sink all the while. -/
def filmed (callback : SinkCommit) (payload : List UInt8) : Act (Sink × SinkFilm) Unit := do
  SinkSight.take true .commits
  let result ← (callback payload).run
    (SinkUse.filmed true fun _ => SinkSight.take true .commits)
  SinkSight.take true .committed
  Act.ofExcept result

end SinkCommit

namespace SinkFilm

/-- The phases that a sink goes through from a first sight on, each once for as long as it lasts. -/
def course (first : Sink) (film : SinkFilm) : List String :=
  ((first :: film.map SinkSight.sink).map fun sink => sink.phase.name).destutter (· ≠ ·)

/-- A sink keeps to its phases as long as it is seen. -/
structure Orderly (first : Sink) (film : SinkFilm) : Prop where
  /-- It is open, and aborted then, or closing and closed. -/
  course : film.course first = ["open"] ∨ film.course first = ["open", "aborted"] ∨
    film.course first = ["open", "closing", "closed"]
  /-- It has a buffer exactly while it is open. -/
  buffered : ∀ sight ∈ film,
    (sight.sink.buffer?.isSome = true ↔ sight.sink.phase.name = "open")
  /-- It counts as closed exactly while it is not open. -/
  shut : ∀ sight ∈ film, (sight.sink.isClosed = true ↔ sight.sink.phase.name ≠ "open")
  /-- It is closing whenever it is seen within a commit. -/
  within : ∀ sight ∈ film, sight.within = true → sight.sink.phase.name = "closing"
  /-- It is closed when a close is left that was not made within a commit, however the close ends,
  unless it was aborted before and still is. -/
  closes : ∀ sight ∈ film, ∀ deed found result, sight.within = false →
    sight.moment = .ends deed found result → deed.isCommitting = true →
      sight.sink.phase.name = "closed" ∨ found.phase.name = "aborted" ∧ sight.sink = found
  /-- It is what it was when a write fails. -/
  unharmed : ∀ sight ∈ film, ∀ data found fault,
    sight.moment = .ends (.write data) found (.error fault) → sight.sink = found

end SinkFilm

namespace SinkSight

/-- What is right to see: the sink has a buffer exactly while it collects; within a commit it is
closing; behind a close that was not made within one it is closed, or aborted as before; behind a
write that failed it is what it was. -/
structure Sound (sight : SinkSight) : Prop where
  coupled : sight.sink.Coupled
  within : sight.within = true → sight.sink.phase = .closing
  closes : ∀ deed found result, sight.within = false → sight.moment = .ends deed found result →
    deed.isCommitting = true →
      sight.sink.phase = .closed ∨ found.phase = .aborted ∧ sight.sink = found
  unharmed : ∀ data found fault, sight.moment = .ends (.write data) found (.error fault) →
    sight.sink = found

/-- A sight within a commit that finds and leaves a sink. -/
def Still (sink : Sink) (sight : SinkSight) : Prop :=
  sight.within = true ∧ sight.sink = sink ∧
    ∀ deed found result, sight.moment = .ends deed found result → found = sink

/-- A sight within a commit of a spent and closing sink is right. -/
theorem Still.sound {sink : Sink} {sight : SinkSight} (still : sight.Still sink)
    (spent : sink.Spent) (closing : sink.phase = .closing) : sight.Sound := by
  obtain ⟨within, same, found⟩ := still
  refine ⟨same ▸ spent.coupled, fun _ => same ▸ closing, ?_, ?_⟩
  · intro _ _ _ outside
    cases within.symm.trans outside
  · intro _ _ _ ends
    exact same.trans (found _ _ _ ends).symm

/-- At the beginning of a use there is nothing to be wrong but the buffer. -/
theorem sound_begins (deed : SinkUse) {sink : Sink} (coupled : sink.Coupled) :
    Sound ⟨false, .begins deed, sink⟩ :=
  ⟨coupled, nofun, nofun, nofun⟩

/-- At the end of a use the sink is closed if the use committed, and unharmed if a write failed. -/
theorem sound_ends {deed : SinkUse} {found sink : Sink} {result : Except Fault SinkAnswer}
    (coupled : sink.Coupled)
    (closes : deed.isCommitting = true →
      sink.phase = .closed ∨ found.phase = .aborted ∧ sink = found)
    (unharmed : ∀ data fault, deed = .write data → result = .error fault → sink = found) :
    Sound ⟨false, .ends deed found result, sink⟩ := by
  refine ⟨coupled, nofun, ?_, ?_⟩
  · rintro _ _ _ _ ⟨⟩
    exact closes
  · rintro _ _ _ ⟨⟩
    exact unharmed _ _ rfl rfl

end SinkSight

/-- A film goes as far as a sink is, which has a buffer exactly while it collects, and all that the
film shows is right. -/
structure SinkFilm.Reaches (first : Sink) (film : SinkFilm) (sink : Sink) : Prop where
  coupled : sink.Coupled
  course : film.course first = sink.phase.path
  sound : ∀ sight ∈ film, sight.Sound

namespace SinkFilm.Reaches

variable {first sink after : Sink} {film : SinkFilm}

/-- One more look, at the sink as it was or in its next phase. -/
theorem look (reaches : film.Reaches first sink) {sight : SinkSight} (sound : sight.Sound)
    (leads : sink.phase.Leads sight.sink.phase) : Reaches first (film ++ [sight]) sight.sink := by
  refine ⟨sound.coupled, ?_,
    List.forall_mem_append.mpr ⟨reaches.sound, List.forall_mem_singleton.mpr sound⟩⟩
  have before := reaches.course
  unfold SinkFilm.course at before ⊢
  rw [List.map_append, ← List.cons_append, List.map_append, List.map_singleton,
    List.map_singleton, List.destutter_concat, before, sink.phase.getLast?_path]
  rcases leads with same | next
  · have named := sink.phase.getLast?_path
    rw [← same, sight.sink.phase.getLast?_path] at named
    rw [if_pos named.symm, same]
  · have fresh := sight.sink.phase.nodup_path
    rw [next, List.nodup_append] at fresh
    have last : sink.phase.name ∈ sink.phase.path :=
      List.mem_of_getLast? sink.phase.getLast?_path
    have differs := fresh.2.2 _ last _ (List.mem_singleton_self _)
    rw [if_neg fun same => differs (Option.some.inj same), next]

/-- Looks within a commit. -/
theorem stay (reaches : film.Reaches first sink) (spent : sink.Spent)
    (closing : sink.phase = .closing) {inner : SinkFilm} (still : ∀ sight ∈ inner, sight.Still sink) :
    Reaches first (film ++ inner) sink := by
  induction inner generalizing film with
  | nil =>
    rw [List.append_nil]
    exact reaches
  | cons sight rest ih =>
    obtain ⟨here, others⟩ := List.forall_mem_cons.mp still
    have next := reaches.look (here.sound spent closing) (.inl (here.2.1 ▸ rfl))
    rw [here.2.1] at next
    rw [List.append_cons]
    exact ih next others

/-- A film that does not end within a commit is orderly. -/
theorem orderly (reaches : film.Reaches first sink) (settled : sink.phase ≠ .closing) :
    film.Orderly first where
  course := by
    rw [reaches.course]
    cases phase : sink.phase with
    | collecting => exact .inl rfl
    | closing => exact (settled phase).elim
    | closed => exact .inr (.inr rfl)
    | aborted => exact .inr (.inl rfl)
  buffered sight inside := by
    rw [Phase.name_eq_open_iff]
    exact (reaches.sound sight inside).coupled
  shut sight _ := by
    unfold Sink.isClosed
    cases sight.sink.phase <;> simp [Phase.isCollecting, Phase.name]
  within sight inside within := by
    rw [(reaches.sound sight inside).within within]
    rfl
  closes sight inside deed found result outside ends committing := by
    rcases (reaches.sound sight inside).closes deed found result outside ends committing with
      closed | ⟨aborted, same⟩
    · rw [closed]
      exact .inl rfl
    · rw [aborted]
      exact .inr ⟨rfl, same⟩
  unharmed sight inside data found fault ends :=
    (reaches.sound sight inside).unharmed data found fault ends

end SinkFilm.Reaches

/-- A filmed use adds a look before and a look behind what the use itself adds. -/
theorem SinkUse.filmed_apply {within : Bool} {commit : List UInt8 → Act (Sink × SinkFilm) Unit}
    {deed : SinkUse} {sink after : Sink} {film between : SinkFilm}
    {result : Except Fault SinkAnswer}
    (ran : deed.run commit (sink, film ++ [⟨within, .begins deed, sink⟩]) =
      (result, (after, between))) :
    deed.filmed within commit (sink, film) =
      (result, (after, between ++ [⟨within, .ends deed sink result, after⟩])) := by
  unfold filmed
  rw [Act.bind_apply]
  simp only [Act.get, SinkSight.take, Act.modify, Act.bind_apply, Act.outcome_apply, ran,
    Act.ofExcept_apply]

/-- A plan that is carried out within a commit leaves the sink as it is, filmed or not. -/
theorem SinkPlan.filmed_within (again : List UInt8 → Act (Sink × τ) Unit)
    (commit : List UInt8 → Act (Sink × SinkFilm) Unit) (plan : SinkPlan α) {sink : Sink}
    (spent : sink.Spent) (film : SinkFilm) (rest : τ) :
    ∃ answer inner,
      plan.run (SinkUse.filmed true commit) (sink, film) = (.ok answer, (sink, film ++ inner)) ∧
      plan.run (SinkUse.run again) (sink, rest) = (.ok answer, (sink, rest)) ∧
      ∀ sight ∈ inner, sight.Still sink := by
  induction plan generalizing film with
  | done answer =>
    refine ⟨answer, [], ?_, rfl, List.forall_mem_nil _⟩
    rw [List.append_nil]
    rfl
  | use deed later ih =>
    have late := deed.run_late commit spent (film ++ [⟨true, .begins deed, sink⟩])
    have filmed := SinkUse.filmed_apply late
    obtain ⟨answer, inner, goes, ran, still⟩ := ih (deed.lateResult sink)
      (film ++ [⟨true, .begins deed, sink⟩] ++ [⟨true, .ends deed sink (deed.lateResult sink), sink⟩])
    refine ⟨answer, ⟨true, .begins deed, sink⟩ ::
      ⟨true, .ends deed sink (deed.lateResult sink), sink⟩ :: inner, ?_, ?_, ?_⟩
    · rw [List.append_cons, List.append_cons]
      simp only [run, Act.bind_apply, Act.outcome_apply, filmed, goes]
    · simp only [run, Act.bind_apply, Act.outcome_apply, deed.run_late again spent, ran]
    · refine List.forall_mem_cons.mpr ⟨⟨rfl, rfl, nofun⟩, List.forall_mem_cons.mpr ⟨⟨rfl, rfl, ?_⟩,
        still⟩⟩
      rintro _ _ _ ⟨⟩
      rfl

/-- A commit of a sink that is closing leaves it so, filmed or not. -/
theorem SinkCommit.filmed_closing (callback : SinkCommit)
    (again : List UInt8 → Act (Sink × τ) Unit) (payload : List UInt8) {sink : Sink}
    (spent : sink.Spent) (film : SinkFilm) (rest : τ) :
    ∃ result inner, callback.filmed payload (sink, film) =
        (result, (sink, film ++ ⟨true, .commits, sink⟩ :: inner)) ∧
      callback.run again payload (sink, rest) = (result, (sink, rest)) ∧
      ∀ sight ∈ inner, sight.Still sink := by
  obtain ⟨result, inner, filmed, ran, still⟩ := (callback payload).filmed_within again
    (fun _ => SinkSight.take true .commits) spent (film ++ [⟨true, .commits, sink⟩]) rest
  refine ⟨result, inner ++ [⟨true, .committed, sink⟩], ?_, ?_,
    List.forall_mem_append.mpr ⟨still, List.forall_mem_singleton.mpr ⟨rfl, rfl, nofun⟩⟩⟩
  · unfold SinkCommit.filmed
    rw [Act.bind_apply]
    simp only [SinkSight.take, Act.modify, Act.bind_apply] at filmed ⊢
    rw [filmed]
    simp only [Act.ofExcept_apply, List.append_assoc, List.cons_append, List.nil_append]
  · unfold SinkCommit.run
    rw [Act.bind_apply, ran]
    rfl

section
variable (callback : SinkCommit) (again : List UInt8 → Act (Sink × τ) Unit) {first sink : Sink}
  {film : SinkFilm} (rest : τ)

namespace SinkUse

/-- A use of a sink comes to the same whether it is filmed or not, and the film keeps up with the
sink. -/
def Shows (first : Sink) (deed : SinkUse) (sink : Sink) (film : SinkFilm) : Prop :=
  ∃ result after later,
    deed.filmed false callback.filmed (sink, film) = (result, (after, later)) ∧
    deed.run (callback.run again) (sink, rest) = (result, (after, rest)) ∧
    later.Reaches first after ∧ after.phase ≠ .closing

variable {deed : SinkUse} {buffer : List UInt8}

/-- A use of a spent sink that is not closing leaves it as it is. -/
theorem shows_late (reaches : film.Reaches first sink) (settled : sink.phase ≠ .closing)
    (spent : sink.Spent) : deed.Shows callback again rest first sink film := by
  have begun := reaches.look (SinkSight.sound_begins deed reaches.coupled) (.inl rfl)
  refine ⟨_, _, _, filmed_apply (deed.run_late _ spent _), deed.run_late _ spent rest,
    begun.look (SinkSight.sound_ends reaches.coupled ?_ fun _ _ _ _ => rfl) (.inl rfl), settled⟩
  intro _
  cases phase : sink.phase with
  | collecting => cases (Sink.isClosed_eq_false_iff.mpr phase).symm.trans spent.closed
  | closing => exact (settled phase).elim
  | closed => exact .inl rfl
  | aborted => exact .inr ⟨rfl, rfl⟩

/-- A use that does not end the collecting leaves the sink open, with a buffer. -/
theorem shows_open (reaches : film.Reaches first sink) (collects : sink.Collects buffer)
    (calm : deed.isTerminal = false) : deed.Shows callback again rest first sink film := by
  have begun := reaches.look (SinkSight.sound_begins deed reaches.coupled) (.inl rfl)
  have still := collects.refilled (buffer ++ deed.writes)
  refine ⟨_, _, _, filmed_apply (run_open collects calm _ _), run_open collects calm _ rest,
    begun.look (SinkSight.sound_ends still.coupled ?_ ?_) (.inl rfl),
    fun closing => nomatch collects.phase.symm.trans closing⟩
  · intro committing
    cases deed with
    | close | leave fault? => cases calm
    | _ => cases committing
  · rintro data fault rfl failed
    cases data with
    | some bytes => cases failed
    | none =>
      simp only [writes, List.append_nil]
      rw [← collects.buffered]

/-- A use that ends the collecting without a commit leaves the sink aborted, without a buffer. -/
theorem shows_abort (reaches : film.Reaches first sink) (collects : sink.Collects buffer)
    (terminal : deed.isTerminal = true) (uncommitting : deed.isCommitting = false) :
    deed.Shows callback again rest first sink film := by
  have begun := reaches.look (SinkSight.sound_begins deed reaches.coupled) (.inl rfl)
  refine ⟨_, _, _, filmed_apply (run_abort collects terminal uncommitting _ _),
    run_abort collects terminal uncommitting _ rest,
    begun.look (SinkSight.sound_ends (sink.spent_ended rfl).coupled ?_ ?_)
      (.inr (collects.phase ▸ rfl)), nofun⟩
  · exact fun committing => nomatch uncommitting.symm.trans committing
  · rintro data fault _ ⟨⟩

/-- A use that commits shows the sink closing, as long as the commit takes, and then closed. -/
theorem shows_commit (reaches : film.Reaches first sink) (collects : sink.Collects buffer)
    (committing : deed.isCommitting = true) :
    deed.Shows callback again rest first sink film := by
  have closing : (sink.ended .closing).Spent := sink.spent_ended rfl
  have begun := reaches.look (SinkSight.sound_begins deed reaches.coupled) (.inl rfl)
  obtain ⟨result, inner, filmed, ran, still⟩ := callback.filmed_closing again buffer closing
    (film ++ [⟨false, .begins deed, sink⟩]) rest
  have opens : SinkSight.Sound ⟨true, .commits, sink.ended .closing⟩ :=
    ⟨closing.coupled, fun _ => rfl, nofun, nofun⟩
  have opened := begun.look opens (.inr (collects.phase ▸ rfl))
  have committed := opened.stay closing rfl still
  rw [← List.append_cons] at committed
  refine ⟨_, _, _, filmed_apply (run_commit collects committing filmed),
    run_commit collects committing ran,
    committed.look (SinkSight.sound_ends (Sink.Spent.coupled ⟨rfl, rfl⟩) (fun _ => .inl rfl) ?_)
      (.inr rfl), nofun⟩
  rintro data fault rfl
  cases committing

/-- Every use of a sink that is not closing leaves the film with the sink. -/
theorem shows (deed : SinkUse) (reaches : film.Reaches first sink)
    (settled : sink.phase ≠ .closing) : deed.Shows callback again rest first sink film := by
  rcases reaches.coupled.cases with spent | ⟨buffer, collects⟩
  · exact shows_late callback again rest reaches settled spent
  cases terminal : deed.isTerminal with
  | false => exact shows_open callback again rest reaches collects terminal
  | true =>
    cases committing : deed.isCommitting with
    | false => exact shows_abort callback again rest reaches collects terminal committing
    | true => exact shows_commit callback again rest reaches collects committing

end SinkUse

/-- A plan comes to the same whether it is filmed or not, and leaves the film with the sink. -/
theorem SinkPlan.shows (plan : SinkPlan α) (reaches : film.Reaches first sink)
    (settled : sink.phase ≠ .closing) :
    ∃ answer after later,
      plan.run (SinkUse.filmed false callback.filmed) (sink, film) =
        (.ok answer, (after, later)) ∧
      plan.run (SinkUse.run (callback.run again)) (sink, rest) = (.ok answer, (after, rest)) ∧
      later.Reaches first after ∧ after.phase ≠ .closing := by
  induction plan generalizing sink film with
  | done answer => exact ⟨answer, sink, film, rfl, rfl, reaches, settled⟩
  | use deed later ih =>
    obtain ⟨result, between, more, filmed, ran, reaches, settled⟩ :=
      deed.shows callback again rest reaches settled
    obtain ⟨answer, after, last, restFilmed, restRan, reaches, settled⟩ :=
      ih result reaches settled
    refine ⟨answer, after, last, ?_, ?_, reaches, settled⟩
    · simp only [run, Act.bind_apply, Act.outcome_apply, filmed, restFilmed]
    · simp only [run, Act.bind_apply, Act.outcome_apply, ran, restRan]

end

/-- Operations on a new sink, and what its commit does in its turn, leave an orderly film. Filming
makes no difference to the results and the sink, and nothing but the sink is touched. -/
theorem SinkOp.runAll_orderly (name : Text) (callback : SinkCommit)
    (again : List UInt8 → Act (Sink × τ) Unit) (operations : List SinkOp) (rest : τ) :
    ∃ (results : List (Except Fault SinkAnswer)) (sink : Sink) (film : SinkFilm),
      (SinkOp.planAll operations).run (SinkUse.filmed false callback.filmed) (.fresh name, []) =
        (.ok results, (sink, film)) ∧
      SinkOp.runAll (callback.run again) operations (.fresh name, rest) =
        (.ok results, (sink, rest)) ∧
      film.Orderly (.fresh name) := by
  have start : SinkFilm.Reaches (.fresh name) [] (.fresh name) :=
    ⟨(Sink.collects_fresh name).coupled, rfl, List.forall_mem_nil _⟩
  obtain ⟨results, sink, film, filmed, ran, reaches, settled⟩ :=
    (SinkOp.planAll operations).shows callback again rest start nofun
  refine ⟨results, sink, film, filmed, ?_, reaches.orderly settled⟩
  rw [SinkOp.runAll_eq]
  exact ran

end ObjectStorage
