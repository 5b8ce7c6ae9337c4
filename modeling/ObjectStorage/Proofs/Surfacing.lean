import ObjectStorage.Proofs.Dialogue
import ObjectStorage.Proofs.Validation

/-!
# How faults surface

A fault of the service that can be judged comes out of a store as a failure of the store, and
nothing else happens on the way but a warning in the log (`BucketStore.guarded_fault`). A failure of
the store comes out as it went in, with itself as its cause.
-/

namespace ObjectStorage

open Text Time

variable {σ α : Type}

/-- A fault at an instant of which a store can make a failure: no interruption, and a failure of
the store already or one that a verdict can be given on, whatever the words in front. -/
def Fault.Judgeable (fault : Fault) (delay : Option Duration) (now : Instant) : Prop :=
  fault.isInterrupt = false ∧
    (fault.isStorage = true ∨
      ∀ message, ∃ verdict, Verdict.ofFault ⟨now, delay, message⟩ fault = .ok verdict)

/-- The failure of the store that a fault surfaces as, and what it is raised from: a failure of the
store stays as it is and is raised from itself, any other fault is the cause of its verdict. -/
inductive Fault.Surfaces (delay : Option Duration) (message : Text) :
    Fault → StorageProblem → Cause → Prop
  | own {problem : StorageProblem} (cause : Cause) :
    Surfaces delay message (.storage problem cause) problem .itself
  | judged {fault : Fault} {now : Instant} {verdict : Verdict} (foreign : fault.isStorage = false)
      (given : Verdict.ofFault ⟨now, delay, message⟩ fault = .ok verdict) :
    Surfaces delay message fault verdict.problem (.fault fault)

namespace Fault

/-- A fault is a failure of the store or it is not. -/
theorem isStorage_cases (fault : Fault) :
    (∃ problem cause, fault = .storage problem cause) ∨ fault.isStorage = false := by
  cases fault with
  | storage problem cause => exact .inl ⟨problem, cause, rfl⟩
  | _ => exact .inr rfl

/-- A failure of the store is always judgeable. -/
theorem judgeable_storage (problem : StorageProblem) (cause : Cause) (delay : Option Duration)
    (now : Instant) : (Fault.storage problem cause).Judgeable delay now :=
  ⟨rfl, .inl rfl⟩

/-- So is a fault that asks to slow down, if all of it can be read and the delay ends in time. -/
theorem judgeable_slow {fault : Fault} {own delay : Option Duration} {now resumeAt : Instant}
    {code : Text} {status : Option Int} (recoverable : fault.isInterrupt = false)
    (asks : fault.asksToSlowDown = .ok true) (given : fault.serviceDelay = .ok own)
    (later : now.add? (firstDelay [own, delay]) = some resumeAt)
    (readCode : fault.reportedCode = .ok code) (readStatus : fault.reportedStatus = .ok status) :
    fault.Judgeable delay now := by
  refine ⟨recoverable, .inr fun message => ?_⟩
  unfold Verdict.ofFault Verdict.throttled
  rw [asks, given, readCode, readStatus]
  simp only [bind, Except.bind, ↓reduceIte, later]
  exact ⟨_, rfl⟩

/-- And one that does not, if its code and status can be read. -/
theorem judgeable_calm {fault : Fault} {code : Text} {status : Option Int}
    (recoverable : fault.isInterrupt = false) (calm : fault.asksToSlowDown = .ok false)
    (readCode : fault.reportedCode = .ok code) (readStatus : fault.reportedStatus = .ok status)
    (delay : Option Duration) (now : Instant) : fault.Judgeable delay now := by
  refine ⟨recoverable, .inr fun message => ?_⟩
  unfold Verdict.ofFault Verdict.nonRetryable
  rw [calm, readCode, readStatus]
  exact ⟨_, rfl⟩

/-- A mishap has neither a code nor a status. -/
theorem judgeable_mishap {m : Mishap} (recoverable : (Fault.mishap m).isInterrupt = false)
    (delay : Option Duration) (now : Instant) : (Fault.mishap m).Judgeable delay now :=
  judgeable_calm recoverable rfl rfl rfl delay now

end Fault

/-- A verdict on a fault that asks to slow down says when to try again: after the delay that is
chosen. -/
theorem Verdict.ofFault_slow {context : FailureContext} {fault : Fault} {verdict : Verdict}
    (asked : fault.asksToSlowDown = .ok true) (given : Verdict.ofFault context fault = .ok verdict) :
    ∃ own resumeAt, fault.serviceDelay = .ok own ∧
      context.now.add? (firstDelay [own, context.delay]) = some resumeAt ∧
      verdict.problem = .throttled resumeAt (context.message ++ ": throttled") ∧
      verdict.record.severity = .warning := by
  obtain ⟨slow, again, given⟩ := Except.bind_ok given
  cases asked.symm.trans again
  obtain ⟨own, read, given⟩ := Except.bind_ok given
  dsimp only at given
  split at given
  · next instant later =>
    obtain ⟨resumeAt, isInstant, given⟩ := Except.bind_ok given
    obtain ⟨code, _, given⟩ := Except.bind_ok given
    obtain ⟨status, _, given⟩ := Except.bind_ok given
    cases isInstant
    cases given
    exact ⟨own, instant, read, later, rfl, rfl⟩
  · obtain ⟨resumeAt, beyond, _⟩ := Except.bind_ok given
    cases beyond

/-- A verdict is told of in a warning. It is a throttled failure if the fault asks to slow down, and
one that a retry does not mend otherwise. -/
theorem Verdict.ofFault_ok {context : FailureContext} {fault : Fault} {verdict : Verdict}
    (given : Verdict.ofFault context fault = .ok verdict) : verdict.record.severity = .warning ∧
      ((fault.asksToSlowDown = .ok true ∧ ∃ resumeAt,
          verdict.problem = .throttled resumeAt (context.message ++ ": throttled")) ∨
        (fault.asksToSlowDown = .ok false ∧ verdict.problem =
          .nonRetryable (context.message ++ ": " ++ fault.text) (isTransport fault))) := by
  obtain ⟨slow, asked, next⟩ := Except.bind_ok given
  cases slow with
  | true =>
    obtain ⟨own, resumeAt, _, _, problem, severity⟩ := ofFault_slow asked given
    exact ⟨severity, .inl ⟨asked, resumeAt, problem⟩⟩
  | false =>
    obtain ⟨code, _, next⟩ := Except.bind_ok next
    obtain ⟨status, _, next⟩ := Except.bind_ok next
    cases next
    exact ⟨rfl, .inr ⟨asked, rfl⟩⟩

/-- A fault from outside the store is judged by its verdict. -/
theorem judge_foreign (context : FailureContext) {fault : Fault}
    (foreign : fault.isStorage = false) :
    (judge context fault : Act (Scene σ) Fault) = (do
      let verdict ← Act.ofExcept (Verdict.ofFault context fault)
      Scene.note (.record verdict.record)
      return .storage verdict.problem (.fault fault)) := by
  cases fault with
  | storage problem cause => cases foreign
  | _ => rfl

/-- What comes of judging a fault from outside the store is raised from the fault, by a verdict. -/
theorem judge_ok {context : FailureContext} {fault failure : Fault} {scene after : Scene σ}
    (foreign : fault.isStorage = false) (judged : judge context fault scene = (.ok failure, after)) :
    ∃ verdict, Verdict.ofFault context fault = .ok verdict ∧
      failure = .storage verdict.problem (.fault fault) := by
  rw [judge_foreign context foreign, Act.bind_apply] at judged
  cases given : Verdict.ofFault context fault with
  | error other =>
    rw [given] at judged
    cases judged
  | ok verdict =>
    rw [given] at judged
    cases judged
    exact ⟨verdict, rfl, rfl⟩

/-- Judging a fault does not end well. -/
theorem failJudged_fails (context : FailureContext) (fault : Fault) (scene : Scene σ) :
    ∃ failure after, failJudged (α := α) context fault scene = (.error failure, after) := by
  unfold failJudged
  rcases judged : judge context fault scene with ⟨_ | failure, after⟩
  · exact ⟨_, after, Act.bind_error judged⟩
  · rw [Act.bind_ok judged]
    split
    · exact ⟨_, after, rfl⟩
    · exact ⟨_, after, rfl⟩

namespace BucketStore

variable (store : BucketStore σ)

/-- A fault that happens now is judgeable by a store. -/
def CanJudge (fault : Fault) (remote : σ) : Prop :=
  fault.Judgeable store.pool.options.retryAfter (store.pool.remote.now remote)

/-- A fault surfaces from a store under words. -/
def Surfaces (message : Text) (fault : Fault) (problem : StorageProblem) (cause : Cause) : Prop :=
  fault.Surfaces store.pool.options.retryAfter message problem cause

/-- What succeeds goes through a guard unchanged. -/
theorem guarded_ok {message : Text} {act : Act (Scene σ) α} {scene after : Scene σ} {answer : α}
    (ran : act scene = (.ok answer, after)) :
    store.guarded message act scene = (.ok answer, after) := by
  unfold guarded
  rw [Act.bind_ok (Act.caught_ok ran)]
  rfl

/-- An interruption passes a guard. -/
theorem guarded_interrupted {message : Text} {act : Act (Scene σ) α} {scene after : Scene σ}
    {fault : Fault} (ran : act scene = (.error fault, after))
    (interrupts : fault.isInterrupt = true) :
    store.guarded message act scene = (.error fault, after) := by
  unfold guarded
  exact Act.bind_error (Act.caught_interrupt ran interrupts)

/-- Any other fault is judged under the words of the guard. -/
theorem guarded_judged {message : Text} {act : Act (Scene σ) α} {scene after : Scene σ}
    {fault : Fault} (ran : act scene = (.error fault, after))
    (recoverable : fault.isInterrupt = false) : store.guarded message act scene =
      failJudged ⟨store.pool.remote.now after.remote, store.pool.options.retryAfter, message⟩ fault
        after := by
  unfold guarded
  rw [Act.bind_ok (Act.caught_error ran recoverable)]
  rfl

/-- What a guarded act answers, the act answered. -/
theorem guarded_answer {message : Text} {act : Act (Scene σ) α} {answer : α} {scene after : Scene σ}
    (answered : store.guarded message act scene = (.ok answer, after)) :
    act scene = (.ok answer, after) := by
  rcases ran : act scene with ⟨_ | _, between⟩
  · next fault =>
    by_cases interrupts : fault.isInterrupt = true
    · cases (store.guarded_interrupted ran interrupts).symm.trans answered
    · obtain ⟨failure, last, failed⟩ := failJudged_fails (α := α)
        ⟨store.pool.remote.now between.remote, store.pool.options.retryAfter, message⟩ fault between
      rw [store.guarded_judged ran (by simpa using interrupts), failed] at answered
      cases answered
  · exact (store.guarded_ok ran).symm.trans answered

/-- A fault from outside the store on which there is a verdict fails as the verdict says, and a
record tells of it. -/
theorem failJudged_verdict {context : FailureContext} {fault : Fault} {verdict : Verdict}
    (foreign : fault.isStorage = false) (given : Verdict.ofFault context fault = .ok verdict)
    (scene : Scene σ) : failJudged (α := α) context fault scene =
      (.error (.storage verdict.problem (.fault fault)),
        { scene with journal := scene.journal ++ [.record verdict.record] }) := by
  have judged : judge context fault scene =
      (.ok (.storage verdict.problem (.fault fault)),
        { scene with journal := scene.journal ++ [.record verdict.record] }) := by
    rw [judge_foreign _ foreign, given]
    rfl
  unfold failJudged
  rw [Act.bind_ok judged]
  simp only [foreign, Bool.false_eq_true, ↓reduceIte, Act.fail_apply]

/-- A judgeable fault is judged where it happens. -/
theorem failJudged_unfolds (message : Text) {fault : Fault} {scene : Scene σ}
    (judgeable : store.CanJudge fault scene.remote) :
    ∃ problem cause after,
      failJudged (α := α)
        ⟨store.pool.remote.now scene.remote, store.pool.options.retryAfter, message⟩ fault scene =
          (.error (.storage problem cause), after) ∧
      store.Surfaces message fault problem cause ∧
      Scene.Unfolds store.pool scene [] [] after := by
  rcases fault.isStorage_cases with ⟨problem, cause, rfl⟩ | foreign
  · exact ⟨problem, .itself, scene, rfl, .own cause, .quiet rfl rfl rfl⟩
  · obtain ⟨verdict, given⟩ := (judgeable.2.resolve_left (Bool.eq_false_iff.mp foreign)) message
    refine ⟨verdict.problem, .fault fault, _, failJudged_verdict foreign given scene,
      .judged foreign given, Scene.note_unfolds scene (.record verdict.record) rfl ?_⟩
    simp [Journal.errors, Journal.records, Event.record?, (Verdict.ofFault_ok given).1]

/-- A fault that a store can judge comes out of a guard as a failure that it surfaces as, and
neither asks for anything nor writes an error record. -/
theorem guarded_fault (message : Text) {act : Act (Scene σ) α} {scene between : Scene σ}
    {fault : Fault} (ran : act scene = (.error fault, between))
    (judgeable : store.CanJudge fault between.remote) :
    ∃ problem cause after,
      store.guarded message act scene = (.error (.storage problem cause), after) ∧
      store.Surfaces message fault problem cause ∧
      Scene.Unfolds store.pool between [] [] after := by
  obtain ⟨problem, cause, after, judged, surfaces, unfolds⟩ :=
    store.failJudged_unfolds (α := α) message judgeable
  exact ⟨problem, cause, after, (store.guarded_judged ran judgeable.1).trans judged, surfaces,
    unfolds⟩

end BucketStore

end ObjectStorage
