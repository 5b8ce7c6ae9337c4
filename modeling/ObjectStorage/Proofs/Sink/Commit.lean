import ObjectStorage.Proofs.Sink.History

/-!
# One commit

Watching a sink changes nothing, and its history tells everything (`SinkOp.runAll_history`): there
is at most one commit, made when the first use that ends the collecting is a close or the normal end
of a block, and it gets the bytes of the writes that went well before. From then on nothing can be
written, flushed or told, not even by what the commit itself does with the sink.
-/

namespace ObjectStorage

variable {τ α : Type}

/-- An event of a sink that does not collect. What ends the collecting may still come to a fault. -/
def SinkEvent.Late (sink : Sink) : SinkEvent → Prop
  | .begins _ => True
  | .commits _ => False
  | .ends deed result => deed.isTerminal = false → result = deed.lateResult sink

/-- Nothing is committed by what happens to a sink that does not collect. -/
theorem SinkHistory.payloads_late {sink : Sink} {inner : SinkHistory}
    (late : ∀ event ∈ inner, event.Late sink) : payloads inner = [] := by
  refine List.filterMap_eq_nil_iff.mpr fun event inside => ?_
  cases event with
  | commits payload => exact (late _ inside).elim
  | _ => rfl

/-- A watched use of a spent sink adds its beginning and its end to the history. -/
theorem SinkUse.watched_late (commit : List UInt8 → Act (Sink × SinkHistory) Unit) (deed : SinkUse)
    {sink : Sink} (spent : sink.Spent) (history : SinkHistory) :
    deed.watched commit (sink, history) = (deed.lateResult sink,
      (sink, history ++ [.begins deed, .ends deed (deed.lateResult sink)])) := by
  unfold watched
  rw [Act.bind_apply]
  simp only [Act.modify, Act.bind_apply, Act.outcome_apply, deed.run_late commit spent,
    Act.ofExcept_apply, List.append_assoc, List.cons_append, List.nil_append]

/-- A plan for a spent sink adds late events only, and the sink stays as it is. -/
theorem SinkPlan.watched_late (commit : List UInt8 → Act (Sink × SinkHistory) Unit)
    (plan : SinkPlan α) {sink : Sink} (spent : sink.Spent) (history : SinkHistory) :
    ∃ answer inner, plan.run (SinkUse.watched commit) (sink, history) =
        (.ok answer, (sink, history ++ inner)) ∧ ∀ event ∈ inner, event.Late sink := by
  induction plan generalizing history with
  | done answer =>
    refine ⟨answer, [], ?_, by simp⟩
    rw [List.append_nil]
    rfl
  | use deed later ih =>
    obtain ⟨answer, inner, ran, late⟩ := ih (deed.lateResult sink)
      (history ++ [.begins deed, .ends deed (deed.lateResult sink)])
    refine ⟨answer, [.begins deed, .ends deed (deed.lateResult sink)] ++ inner, ?_, ?_⟩
    · simp only [run, Act.bind_apply, Act.outcome_apply, deed.watched_late commit spent history,
        ran, List.append_assoc]
    · intro event inside
      rcases List.mem_append.mp inside with own | others
      · simp only [List.mem_cons, List.not_mem_nil, or_false] at own
        rcases own with rfl | rfl
        · trivial
        · exact fun _ => rfl
      · exact late event others

/-- A commit that is noted, makes uses of the sink in its turn, and fails or not. -/
structure SinkCallback where
  uses : List UInt8 → List SinkOp
  fault? : List UInt8 → Option Fault

namespace SinkCallback

/-- What a commit ends in. -/
def result (callback : SinkCallback) (payload : List UInt8) : Except Fault Unit :=
  match callback.fault? payload with
  | some fault => .error fault
  | none => .ok ()

/-- The callback as a commit that notes what it gets. A commit made from within it is any act. -/
def commit (callback : SinkCallback) (within : List UInt8 → Act (Sink × List (List UInt8)) Unit)
    (payload : List UInt8) : Act (Sink × List (List UInt8)) Unit := do
  Act.modify fun state => (state.1, state.2 ++ [payload])
  let _ ← SinkOp.runAll within (callback.uses payload)
  Act.ofExcept (callback.result payload)

/-- The callback as a commit of a sink that is watched. -/
def watched (callback : SinkCallback) (payload : List UInt8) : Act (Sink × SinkHistory) Unit := do
  Act.modify fun state => (state.1, state.2 ++ [.commits payload])
  let _ ← (SinkOp.planAll (callback.uses payload)).run (SinkUse.watched fun again =>
    Act.modify fun state => (state.1, state.2 ++ [.commits again]))
  Act.ofExcept (callback.result payload)

variable (callback : SinkCallback) {sink : Sink} (spent : sink.Spent)
include spent

/-- A callback that uses a spent sink comes to its own result, and notes the payload once. -/
theorem commit_late (within : List UInt8 → Act (Sink × List (List UInt8)) Unit)
    (payload : List UInt8) (log : List (List UInt8)) :
    callback.commit within payload (sink, log) =
      (callback.result payload, (sink, log ++ [payload])) := by
  obtain ⟨results, ran⟩ := (SinkOp.planAll (callback.uses payload)).run_late within spent
    (log ++ [payload])
  unfold commit
  rw [Act.bind_apply]
  simp only [Act.modify, SinkOp.runAll_eq, Act.bind_apply, ran, Act.ofExcept_apply]

/-- Watched, it notes the commit and then late events only. -/
theorem watched_late (payload : List UInt8) (history : SinkHistory) :
    ∃ inner, callback.watched payload (sink, history) =
        (callback.result payload, (sink, history ++ .commits payload :: inner)) ∧
      ∀ event ∈ inner, event.Late sink := by
  obtain ⟨results, inner, ran, late⟩ := (SinkOp.planAll (callback.uses payload)).watched_late
    (fun again => Act.modify fun state => (state.1, state.2 ++ [.commits again])) spent
    (history ++ [.commits payload])
  refine ⟨inner, ?_, late⟩
  unfold watched
  rw [Act.bind_apply]
  simp only [Act.modify, Act.bind_apply] at ran ⊢
  rw [ran]
  simp only [Act.ofExcept_apply, List.append_assoc, List.cons_append, List.nil_append]

end SinkCallback

/-- While a history has not ended, what it says that a use answers is what the collecting sink
answers. -/
theorem SinkHistory.answer?_open {sink : Sink} {buffer : List UInt8} {deed : SinkUse}
    {history : SinkHistory} (unended : history.ending? = none)
    (accepted : history.accepted = buffer) {answer : Except Fault SinkAnswer}
    (expected : history.answer? sink.name deed = some answer) :
    deed.openResult sink buffer = answer := by
  cases deed with
  | write data =>
    simp only [SinkHistory.answer?, unended, Option.some.injEq] at expected
    rw [← expected]
    cases data <;> rfl
  | flush | tell =>
    simp only [SinkHistory.answer?, unended, accepted, Option.some.injEq] at expected
    exact expected
  | close | abort | leave fault? | look read => cases expected

/-- A sink is where its history says: it collects what was accepted and nothing is committed, or the
collecting has ended and what was due is committed. -/
structure SinkHistory.Tracks (name : Text) (sink : Sink) (history : SinkHistory) : Prop where
  named : sink.name = name
  coupled : sink.Coupled
  collecting : ∀ buffer, sink.Collects buffer →
    history.ending? = none ∧ history.accepted = buffer ∧ history.payloads = []
  settled : sink.Spent →
    (∃ deed, history.ending? = some deed) ∧ history.payloads = history.due
  truthful : history.Truthful name

namespace SinkHistory.Tracks

variable {name : Text} {sink : Sink} {history : SinkHistory}

/-- A new sink keeps to the empty history. -/
theorem fresh (name : Text) : SinkHistory.Tracks name (.fresh name) [] := by
  have collects := Sink.collects_fresh name
  refine ⟨rfl, collects.coupled, ?_, fun spent => (collects.not_spent spent).elim, truthful_nil⟩
  rintro buffer ⟨-, same⟩
  cases same
  exact ⟨rfl, rfl, rfl⟩

/-- What happens to a spent sink keeps to its history. -/
theorem late_event (tracks : history.Tracks name sink) (spent : sink.Spent)
    {event : SinkEvent} (late : event.Late sink) : Tracks name sink (history ++ [event]) := by
  obtain ⟨⟨ending, ended⟩, paid⟩ := tracks.settled spent
  refine ⟨tracks.named, tracks.coupled, fun _ collects => (collects.not_spent spent).elim,
    fun _ => ⟨⟨ending, ?_⟩, ?_⟩, tracks.truthful.concat event ?_⟩
  · rw [ending?_append, ended, Option.some_or]
  · rw [payloads_append, due_append ended, paid]
    cases event with
    | commits payload => exact late.elim
    | _ => exact List.append_nil _
  · rintro deed result answer rfl expected
    have fault : sink.closedFault = .mishap (.closedSink name) := by
      rw [Sink.closedFault, tracks.named]
    cases deed <;>
      simp only [answer?, ended, Option.some.injEq, reduceCtorEq] at expected <;>
      rw [late rfl, SinkUse.lateResult, fault, expected]

/-- So does a row of such events. -/
theorem late (tracks : history.Tracks name sink) (spent : sink.Spent)
    {inner : SinkHistory} (allLate : ∀ event ∈ inner, event.Late sink) :
    Tracks name sink (history ++ inner) := by
  induction inner generalizing history with
  | nil =>
    rw [List.append_nil]
    exact tracks
  | cons event rest ih =>
    obtain ⟨here, others⟩ := List.forall_mem_cons.mp allLate
    rw [List.append_cons]
    exact ih (tracks.late_event spent here) others

/-- Once the collecting has ended, it does not matter how far the closing has come. -/
theorem rephase (tracks : history.Tracks name sink) (spent : sink.Spent) {phase : Phase}
    (still : phase.isCollecting = false) : history.Tracks name (sink.ended phase) := by
  have later : (sink.ended phase).Spent := sink.spent_ended still
  exact ⟨tracks.named, later.coupled, fun _ collects => (collects.not_spent later).elim,
    fun _ => tracks.settled spent, tracks.truthful⟩

variable {buffer : List UInt8} {deed : SinkUse}

/-- A use that does not end the collecting. -/
theorem open_use (tracks : history.Tracks name sink) (collects : sink.Collects buffer)
    (calm : deed.isTerminal = false) :
    Tracks name { sink with buffer? := some (buffer ++ deed.writes) }
      (history ++ [.begins deed] ++ [.ends deed (deed.openResult sink buffer)]) := by
  obtain ⟨unended, own, unpaid⟩ := tracks.collecting buffer collects
  have begun : ending? (history ++ [.begins deed]) = none := by
    rw [ending?_append, unended, Option.none_or]
    simp only [ending?, List.findSome?_cons, SinkEvent.ending?, calm, Bool.false_eq_true,
      ↓reduceIte, List.findSome?_nil]
  have kept : accepted (history ++ [.begins deed]) = buffer := by
    rw [accepted_append, own]
    exact List.append_nil buffer
  have wrote : accepted [.ends deed (deed.openResult sink buffer)] = deed.writes := by
    unfold accepted
    rw [List.flatMap_singleton]
    cases deed with
    | write data => cases data <;> rfl
    | _ => rfl
  have opened := tracks.truthful.concat_begins deed
  have still := collects.refilled (buffer ++ deed.writes)
  refine ⟨tracks.named, still.coupled, ?_, fun spent => (still.not_spent spent).elim,
    opened.concat _ ?_⟩
  · rintro _ ⟨-, same⟩
    cases same
    refine ⟨?_, ?_, ?_⟩
    · rw [ending?_append, begun]
      rfl
    · rw [accepted_append, kept, wrote]
    · rw [payloads_begin_end, unpaid]
  · rintro _ _ answer ⟨⟩ expected
    exact answer?_open begun kept (tracks.named ▸ expected)

/-- A use that ends the collecting, up to the commit if there is one. -/
theorem end_use (tracks : history.Tracks name sink) (collects : sink.Collects buffer)
    (terminal : deed.isTerminal = true) {phase : Phase} (still : phase.isCollecting = false) :
    Tracks name (sink.ended phase) (history ++ [.begins deed] ++
      if deed.isCommitting then [.commits buffer] else []) := by
  obtain ⟨unended, own, unpaid⟩ := tracks.collecting buffer collects
  have begun : ending? (history ++ [.begins deed]) = some deed := by
    rw [ending?_append, unended, Option.none_or]
    simp only [ending?, List.findSome?_cons, SinkEvent.ending?, terminal, ↓reduceIte]
  have before : opening (history ++ [.begins deed]) = history := by
    rw [opening_append_of_none unended]
    simp only [opening, List.takeWhile_cons, SinkEvent.ending?, terminal, ↓reduceIte,
      Option.isNone_some, Bool.false_eq_true, List.append_nil]
  have spent : (sink.ended phase).Spent := sink.spent_ended still
  refine ⟨tracks.named, spent.coupled, fun _ again => (again.not_spent spent).elim,
    fun _ => ⟨⟨deed, ?_⟩, ?_⟩, ?_⟩
  · rw [ending?_append, begun, Option.some_or]
  · rw [due_append begun, due, begun, before, own, payloads_append, payloads_append, unpaid]
    cases committing : deed.isCommitting <;> simp only [committing] <;> rfl
  · have opened := tracks.truthful.concat_begins deed
    cases deed.isCommitting with
    | true => exact opened.concat_commits buffer
    | false => simpa using opened

end SinkHistory.Tracks

/-- A watched use adds its beginning before and its end behind what the use itself adds. -/
theorem SinkUse.watched_apply {commit : List UInt8 → Act (Sink × SinkHistory) Unit} {deed : SinkUse}
    {sink after : Sink} {history between : SinkHistory} {result : Except Fault SinkAnswer}
    (ran : deed.run commit (sink, history ++ [.begins deed]) = (result, (after, between))) :
    deed.watched commit (sink, history) = (result, (after, between ++ [.ends deed result])) := by
  unfold watched
  rw [Act.bind_apply]
  simp only [Act.modify, Act.bind_apply, Act.outcome_apply, ran, Act.ofExcept_apply]

section
variable (callback : SinkCallback) (within : List UInt8 → Act (Sink × List (List UInt8)) Unit)
  {name : Text} {sink : Sink} {history : SinkHistory}

namespace SinkUse

/-- A use of a sink comes to the same whether it is watched or not, and the sink keeps to its
history. -/
def Steps (name : Text) (deed : SinkUse) (sink : Sink) (history : SinkHistory) : Prop :=
  ∃ result after later,
    deed.watched callback.watched (sink, history) = (result, (after, later)) ∧
    deed.run (callback.commit within) (sink, history.payloads) =
      (result, (after, later.payloads)) ∧
    later.Tracks name after

variable {deed : SinkUse} {buffer : List UInt8}

/-- A use of a spent sink is a step. -/
theorem steps_late (tracks : history.Tracks name sink) (spent : sink.Spent) :
    deed.Steps callback within name sink history := by
  refine ⟨_, _, _, deed.watched_late _ spent history, ?_, tracks.late spent ?_⟩
  · rw [deed.run_late _ spent, SinkHistory.payloads_append]
    exact congrArg _ (congrArg _ (List.append_nil _).symm)
  · simp [SinkEvent.Late]

/-- A use that does not end the collecting is a step. -/
theorem steps_open (tracks : history.Tracks name sink) (collects : sink.Collects buffer)
    (calm : deed.isTerminal = false) : deed.Steps callback within name sink history := by
  refine ⟨_, _, _, watched_apply (run_open collects calm _ _), ?_, tracks.open_use collects calm⟩
  rw [run_open collects calm, SinkHistory.payloads_begin_end]

/-- A use that ends the collecting without a commit is a step. -/
theorem steps_abort (tracks : history.Tracks name sink) (collects : sink.Collects buffer)
    (terminal : deed.isTerminal = true) (committing : deed.isCommitting = false) :
    deed.Steps callback within name sink history := by
  have ended : SinkHistory.Tracks name (sink.ended .aborted) _ :=
    tracks.end_use collects terminal rfl
  rw [committing, if_neg Bool.false_ne_true, List.append_nil] at ended
  refine ⟨_, _, _, watched_apply (run_abort collects terminal committing _ _), ?_,
    ended.late_event (sink.spent_ended rfl) ?_⟩
  · rw [run_abort collects terminal committing, SinkHistory.payloads_begin_end]
  · exact fun calm => nomatch terminal.symm.trans calm

/-- A use that commits is a step, whatever the callback does with the sink. -/
theorem steps_commit (tracks : history.Tracks name sink) (collects : sink.Collects buffer)
    (terminal : deed.isTerminal = true) (committing : deed.isCommitting = true) :
    deed.Steps callback within name sink history := by
  -- The callback finds the sink closing, so nothing that it does with it can commit again.
  have closing : (sink.ended .closing).Spent := sink.spent_ended rfl
  have plain := callback.commit_late closing within buffer history.payloads
  obtain ⟨inner, watched, late⟩ :=
    callback.watched_late closing buffer (history ++ [.begins deed])
  have ended : SinkHistory.Tracks name (sink.ended .closing) _ :=
    tracks.end_use collects terminal rfl
  rw [committing, if_pos rfl] at ended
  have closed : SinkHistory.Tracks name (sink.ended .closed) _ :=
    (ended.late closing late).rephase closing rfl
  rw [← List.append_cons] at closed
  have paid : SinkHistory.payloads (.commits buffer :: inner) = [buffer] :=
    congrArg (buffer :: ·) (SinkHistory.payloads_late late)
  have again : SinkHistory.payloads (history ++ [.begins deed] ++ .commits buffer :: inner ++
      [.ends deed ((callback.result buffer).map fun _ => .nothing)]) =
      history.payloads ++ [buffer] := by
    have begun : SinkHistory.payloads [.begins deed] = [] := rfl
    rw [SinkHistory.payloads_append, SinkHistory.payloads_append, SinkHistory.payloads_append,
      paid, begun, List.append_nil]
    exact List.append_nil _
  refine ⟨_, _, _, watched_apply (run_commit collects committing watched), ?_,
    closed.late_event (sink.spent_ended rfl) ?_⟩
  · rw [run_commit collects committing plain, again]
  · exact fun calm => nomatch terminal.symm.trans calm

/-- Every use of a sink that keeps to its history is a step. -/
theorem steps (deed : SinkUse) (tracks : history.Tracks name sink) :
    deed.Steps callback within name sink history := by
  rcases tracks.coupled.cases with spent | ⟨buffer, collects⟩
  · exact steps_late callback within tracks spent
  cases terminal : deed.isTerminal with
  | false => exact steps_open callback within tracks collects terminal
  | true =>
    cases committing : deed.isCommitting with
    | false => exact steps_abort callback within tracks collects terminal committing
    | true => exact steps_commit callback within tracks collects terminal committing

end SinkUse

/-- A plan comes to the same whether it is watched or not, and leaves a sink that keeps to its
history. -/
theorem SinkPlan.steps (plan : SinkPlan α) (tracks : history.Tracks name sink) :
    ∃ answer after later,
      plan.run (SinkUse.watched callback.watched) (sink, history) = (.ok answer, (after, later)) ∧
      plan.run (SinkUse.run (callback.commit within)) (sink, history.payloads) =
        (.ok answer, (after, later.payloads)) ∧
      later.Tracks name after := by
  induction plan generalizing sink history with
  | done answer => exact ⟨answer, sink, history, rfl, rfl, tracks⟩
  | use deed later ih =>
    obtain ⟨result, between, more, watched, ran, tracks⟩ := deed.steps callback within tracks
    obtain ⟨answer, after, last, restWatched, restRan, tracks⟩ := ih result tracks
    refine ⟨answer, after, last, ?_, ?_, tracks⟩
    · simp only [run, Act.bind_apply, Act.outcome_apply, watched, restWatched]
    · simp only [run, Act.bind_apply, Act.outcome_apply, ran, restRan]

end

namespace SinkHistory

/-- A sink that keeps to its history has committed what was due. -/
theorem Tracks.payloads_eq_due {name : Text} {sink : Sink} {history : SinkHistory}
    (tracks : history.Tracks name sink) : history.payloads = history.due := by
  rcases tracks.coupled.cases with spent | ⟨buffer, collects⟩
  · exact (tracks.settled spent).2
  · obtain ⟨unended, _, unpaid⟩ := tracks.collecting buffer collects
    rw [unpaid, due, unended]

/-- It counts as closed exactly if the collecting ended in its history. -/
theorem Tracks.isClosed_eq {name : Text} {sink : Sink} {history : SinkHistory}
    (tracks : history.Tracks name sink) : sink.isClosed = history.ending?.isSome := by
  rcases tracks.coupled.cases with spent | ⟨buffer, collects⟩
  · obtain ⟨deed, ended⟩ := (tracks.settled spent).1
    rw [spent.closed, ended]
    rfl
  · rw [collects.isClosed, (tracks.collecting buffer collects).1]
    rfl

end SinkHistory

/-- Operations on a new sink, and what its commit does in its turn, leave a history. Watching makes
no difference to the results, the sink and the commits; there is at most one commit, of what was
accepted before the collecting ended and only if it ended by a commit; and every write, flush and
tell came to what the history before it says. -/
theorem SinkOp.runAll_history (name : Text) (callback : SinkCallback)
    (within : List UInt8 → Act (Sink × List (List UInt8)) Unit) (operations : List SinkOp) :
    ∃ (results : List (Except Fault SinkAnswer)) (sink : Sink) (history : SinkHistory),
      (SinkOp.planAll operations).run (SinkUse.watched callback.watched) (.fresh name, []) =
        (.ok results, (sink, history)) ∧
      SinkOp.runAll (callback.commit within) operations (.fresh name, []) =
        (.ok results, (sink, history.payloads)) ∧
      sink.isClosed = history.ending?.isSome ∧
      history.payloads.length ≤ 1 ∧
      history.payloads = (match history.ending? with
        | none => []
        | some deed => if deed.isCommitting then [history.opening.accepted] else []) ∧
      ∀ before deed result after answer, history = before ++ .ends deed result :: after →
        SinkHistory.answer? name before deed = some answer → result = answer := by
  obtain ⟨results, sink, history, watched, ran, tracks⟩ :=
    (SinkOp.planAll operations).steps callback within (SinkHistory.Tracks.fresh name)
  have paid := tracks.payloads_eq_due
  refine ⟨results, sink, history, watched, ?_, tracks.isClosed_eq, ?_, paid, tracks.truthful⟩
  · rw [SinkOp.runAll_eq]
    exact ran
  · rw [paid]
    exact history.length_due_le

end ObjectStorage
