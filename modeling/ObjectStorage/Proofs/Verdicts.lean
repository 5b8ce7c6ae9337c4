import ObjectStorage.Proofs.Resuming.Delays

/-!
# What a verdict is decided by

A verdict on a fault of a service looks at three things in the response: the error code, the status
and the hint of when to try again. The failure is a throttled one exactly if the code or the status
asks to slow down, and two responses that agree on the three get failures that differ in their words
only (`judge_byData`).
-/

namespace ObjectStorage

open Number Text Time

variable {σ : Type}

namespace Datum

/-- The error code in a response, empty where there is none. -/
def errorCode (response : Datum) : Text :=
  (((response.field "Error").field "Code").orElse (.text "")).plain

/-- The status in a response, if it reads as a whole number. -/
def status? (response : Datum) : Option Int :=
  match response.metadata.field "HTTPStatusCode" with
  | .null => none
  | status => status.toInteger.toOption

/-- The code or the status of a response asks to slow down. -/
def AsksToSlowDown (response : Datum) : Prop :=
  response.errorCode ∈ throttlingCodes ∨ response.status? = some throttlingStatus

/-- Two responses agree on what a verdict looks at. -/
structure AgreesWith (first second : Datum) : Prop where
  code : first.errorCode = second.errorCode
  status : first.status? = second.status?
  hint : first.hint = second.hint

/-- Responses that agree ask to slow down alike. -/
theorem AgreesWith.asks_iff {first second : Datum} (agrees : first.AgreesWith second) :
    first.AsksToSlowDown ↔ second.AsksToSlowDown := by
  unfold AsksToSlowDown
  rw [agrees.code, agrees.status]

end Datum

namespace Fault

/-- A service asks to slow down. No other fault does. -/
def AsksToSlowDown (fault : Fault) : Prop :=
  ∃ response text, fault = .service response text ∧ response.AsksToSlowDown

variable {response other : Datum} {text otherText : Text}

/-- A service asks to slow down if its response does. -/
theorem asksToSlowDown_service :
    (service response text).AsksToSlowDown ↔ response.AsksToSlowDown := by
  constructor
  · rintro ⟨_, _, ⟨⟩, asks⟩
    exact asks
  · exact fun asks => ⟨response, text, rfl, asks⟩

/-- The code that is read is the one in the response. -/
theorem reportedCode_said {code : Text} (given : (service response text).reportedCode = .ok code) :
    code = response.errorCode := by
  obtain ⟨error, isError, given⟩ := Except.bind_ok given
  obtain ⟨entry, isEntry, given⟩ := Except.bind_ok given
  cases given
  rw [Datum.get_ok isEntry, responsePart_ok isError, Datum.field_orElse]
  rfl

/-- So is the status. -/
theorem reportedStatus_said {status : Option Int}
    (given : (service response text).reportedStatus = .ok status) : status = response.status? := by
  obtain ⟨metadata, isMetadata, given⟩ := Except.bind_ok given
  obtain ⟨entry, isEntry, given⟩ := Except.bind_ok given
  have field : response.metadata.field "HTTPStatusCode" = entry := by
    rw [Datum.get_ok isEntry, responsePart_ok isMetadata, Datum.field_orElse]
    rfl
  unfold Datum.status?
  rw [field]
  cases entry with
  | null =>
    cases given
    rfl
  | _ =>
    obtain ⟨number, isNumber, given⟩ := Except.bind_ok given
    cases given
    dsimp only
    rw [isNumber]
    rfl

/-- A fault that no service reports does not ask to slow down: it has neither a code nor a
status. -/
theorem asksToSlowDown_unreported {fault : Fault} {asked : Bool} (code : fault.reportedCode = .ok "")
    (status : fault.reportedStatus = .ok none) (given : fault.asksToSlowDown = .ok asked) :
    asked = false := by
  have unlisted : throttlingCodes.contains "" = false := by decide +kernel
  obtain ⟨said, isCode, given⟩ := Except.bind_ok given
  have empty : said = "" := Except.ok.inj (isCode.symm.trans code)
  rw [empty, unlisted] at given
  obtain ⟨reported, isStatus, given⟩ := Except.bind_ok given
  cases status.symm.trans isStatus
  cases given
  rfl

/-- Where it can be told whether a fault asks to slow down, its code and status tell. -/
theorem asksToSlowDown_said {fault : Fault} {asked : Bool}
    (given : fault.asksToSlowDown = .ok asked) : asked = true ↔ fault.AsksToSlowDown := by
  cases fault with
  | service response text =>
    obtain ⟨code, isCode, given⟩ := Except.bind_ok given
    rw [asksToSlowDown_service, Datum.AsksToSlowDown, ← reportedCode_said isCode]
    split at given
    · next listed =>
      cases given
      exact ⟨fun _ => .inl (List.contains_iff_mem.mp listed), fun _ => rfl⟩
    · next unlisted =>
      obtain ⟨status, isStatus, given⟩ := Except.bind_ok given
      cases given
      rw [← reportedStatus_said isStatus, beq_iff_eq]
      exact ⟨.inr, fun asks =>
        asks.resolve_left fun listed => unlisted (List.contains_iff_mem.mpr listed)⟩
  | _ =>
    cases asksToSlowDown_unreported rfl rfl given
    exact ⟨nofun, fun ⟨_, _, same, _⟩ => by cases same⟩

/-- Of a response that has its parts it can be told whether it asks to slow down. -/
theorem asksToSlowDown_ok (parts : response.HasParts) (text : Text) :
    ∃ asked, (service response text).asksToSlowDown = .ok asked := by
  obtain ⟨code, readCode⟩ := reportedCode_ok parts text
  obtain ⟨status, readStatus⟩ := reportedStatus_ok parts text
  unfold asksToSlowDown
  rw [readCode, readStatus]
  dsimp only [bind, Except.bind]
  split
  · exact ⟨true, rfl⟩
  · exact ⟨_, rfl⟩

/-- What agrees asks to slow down alike. -/
theorem asksToSlowDown_agrees {asked again : Bool} (agrees : response.AgreesWith other)
    (given : (service response text).asksToSlowDown = .ok asked)
    (givenAgain : (service other otherText).asksToSlowDown = .ok again) : asked = again := by
  rw [Bool.eq_iff_iff, asksToSlowDown_said given, asksToSlowDown_said givenAgain,
    asksToSlowDown_service, asksToSlowDown_service]
  exact agrees.asks_iff

end Fault

namespace StorageProblem

/-- A failure of a request is what the code and the status of the fault call for. -/
structure Fits (problem : StorageProblem) (fault : Fault) : Prop where
  slow : (∃ resumeAt words, problem = .throttled resumeAt words) ↔ fault.AsksToSlowDown
  /-- Without a call to slow down, a retry does not mend the failure. It is flagged exactly if no
  answer came. -/
  calm : ¬ fault.AsksToSlowDown → ∃ words transport, problem = .nonRetryable words transport ∧
    (transport = true ↔ ∃ unanswered, fault = .transport unanswered)

/-- Two failures of requests differ in their words only. -/
inductive DiffersInWords : StorageProblem → StorageProblem → Prop
  | throttled (resumeAt : Instant) (words others : Text) :
    DiffersInWords (.throttled resumeAt words) (.throttled resumeAt others)
  | nonRetryable (transport : Bool) (words others : Text) :
    DiffersInWords (.nonRetryable words transport) (.nonRetryable others transport)

/-- Words count neither for the kind of a failure nor for when to try again. -/
theorem DiffersInWords.alike {problem other : StorageProblem}
    (differs : problem.DiffersInWords other) : problem.kind = other.kind ∧
      problem.worthRetry = other.worthRetry ∧ problem.resumeAt? = other.resumeAt? := by
  cases differs with
  | throttled resumeAt words others => exact ⟨rfl, rfl, rfl⟩
  | nonRetryable transport words others => exact ⟨rfl, rfl, rfl⟩

end StorageProblem

namespace Verdict

/-- The faults of a transport are those of a service that did not answer. -/
theorem isTransport_iff {fault : Fault} :
    isTransport fault = true ↔ ∃ unanswered, fault = .transport unanswered := by
  cases fault with
  | transport problem => exact ⟨fun _ => ⟨problem, rfl⟩, fun _ => rfl⟩
  | _ => exact ⟨nofun, fun ⟨_, same⟩ => by cases same⟩

/-- A verdict that can be reached fits the fault. -/
theorem ofFault_fits {context : FailureContext} {fault : Fault} {verdict : Verdict}
    (given : ofFault context fault = .ok verdict) : verdict.problem.Fits fault := by
  rcases (ofFault_ok given).2 with ⟨asked, resumeAt, slow⟩ | ⟨asked, calm⟩
  · have asks := (Fault.asksToSlowDown_said asked).mp rfl
    exact ⟨⟨fun _ => asks, fun _ => ⟨resumeAt, _, slow⟩⟩, fun silent => (silent asks).elim⟩
  · have silent : ¬ fault.AsksToSlowDown := fun asks => by
      cases (Fault.asksToSlowDown_said asked).mpr asks
    refine ⟨⟨?_, fun asks => (silent asks).elim⟩, fun _ => ⟨_, _, calm, isTransport_iff⟩⟩
    rintro ⟨resumeAt, words, slow⟩
    cases calm.symm.trans slow

variable {context : FailureContext} {response other : Datum} {text otherText words : Text}
  {verdict : Verdict}

/-- What agrees with a response that there is a verdict on gets one as well, if its parts are
tables. -/
theorem ofFault_agrees (agrees : response.AgreesWith other) (parts : other.HasParts)
    (given : ofFault context (.service response text) = .ok verdict) :
    ∃ again, ofFault ⟨context.now, context.delay, words⟩ (.service other otherText) = .ok again := by
  obtain ⟨asked, isAsked, _⟩ := Except.bind_ok given
  obtain ⟨code, readCode⟩ := Fault.reportedCode_ok parts otherText
  obtain ⟨status, readStatus⟩ := Fault.reportedStatus_ok parts otherText
  obtain ⟨again, isAgain⟩ := Fault.asksToSlowDown_ok parts otherText
  cases Fault.asksToSlowDown_agrees agrees isAsked isAgain
  have judgeable : (Fault.service other otherText).Judgeable context.delay context.now := by
    cases asked with
    | true =>
      obtain ⟨own, resumeAt, said, later, _⟩ := ofFault_slow isAsked given
      have hinted : (Fault.service other otherText).serviceDelay = .ok own := by
        rw [Fault.serviceDelay_hint parts, ← agrees.hint]
        exact Fault.serviceDelay_hinted said
      exact Fault.judgeable_slow rfl isAgain hinted later readCode readStatus
    | false => exact Fault.judgeable_calm rfl isAgain readCode readStatus _ _
  exact judgeable.2.resolve_left (by nofun) words

/-- Verdicts on responses that agree differ in their words only. -/
theorem ofFault_differsInWords {again : Verdict} (agrees : response.AgreesWith other)
    (given : ofFault context (.service response text) = .ok verdict)
    (givenAgain : ofFault ⟨context.now, context.delay, words⟩ (.service other otherText) =
      .ok again) : verdict.problem.DiffersInWords again.problem := by
  rcases (ofFault_ok given).2 with ⟨asked, _⟩ | ⟨asked, calm⟩ <;>
    rcases (ofFault_ok givenAgain).2 with ⟨askedAgain, _⟩ | ⟨askedAgain, calmAgain⟩ <;>
    -- of the four pairs of verdicts only the two are left in which both ask, or neither does
    cases Fault.asksToSlowDown_agrees agrees asked askedAgain
  · obtain ⟨own, resumeAt, said, later, slow, _⟩ := ofFault_slow asked given
    obtain ⟨ownAgain, resumeAgain, saidAgain, laterAgain, slowAgain, _⟩ :=
      ofFault_slow askedAgain givenAgain
    have hinted := Fault.serviceDelay_hinted saidAgain
    rw [← agrees.hint, Fault.serviceDelay_hinted said] at hinted
    cases hinted
    cases later.symm.trans laterAgain
    rw [slow, slowAgain]
    exact .throttled ..
  · rw [calm, calmAgain]
    exact .nonRetryable ..

end Verdict

/-- Judging a fault from outside the store leaves the failure that its code and status call for,
raised from the fault. Of a service's response only the code, the status and the hint count: another
response that agrees on them is judged at that instant to be a failure that differs in its words
only, and there is such a failure if the parts of that response are tables. -/
theorem judge_byData {context : FailureContext} {fault failure : Fault} {scene after : Scene σ}
    (foreign : fault.isStorage = false) (judged : judge context fault scene = (.ok failure, after)) :
    ∃ problem, failure = .storage problem (.fault fault) ∧ problem.Fits fault ∧
      ∀ response text other otherText words (start : Scene σ), fault = .service response text →
        response.AgreesWith other →
        let again := judge ⟨context.now, context.delay, words⟩ (.service other otherText) start
        (other.HasParts → ∃ otherFailure, again.1 = .ok otherFailure) ∧
        ∀ otherFailure, again.1 = .ok otherFailure → ∃ otherProblem,
          otherFailure = .storage otherProblem (.fault (.service other otherText)) ∧
          problem.DiffersInWords otherProblem ∧ problem.kind = otherProblem.kind ∧
          problem.worthRetry = otherProblem.worthRetry ∧
          problem.resumeAt? = otherProblem.resumeAt? := by
  obtain ⟨verdict, given, rfl⟩ := judge_ok foreign judged
  refine ⟨verdict.problem, rfl, Verdict.ofFault_fits given, ?_⟩
  rintro response text other otherText words start rfl agrees
  refine ⟨fun parts => ?_, fun otherFailure ended => ?_⟩
  · obtain ⟨again, givenAgain⟩ := Verdict.ofFault_agrees agrees parts given
    rw [judge_foreign _ rfl, givenAgain]
    exact ⟨_, rfl⟩
  · obtain ⟨again, givenAgain, rfl⟩ := judge_ok rfl (Prod.ext ended rfl)
    have differs := Verdict.ofFault_differsInWords agrees given givenAgain
    exact ⟨again.problem, rfl, differs, differs.alike⟩

/-- A response that asks to slow down as `slowResponse` does, with more to say. -/
def wordyResponse (hint : Text) : Datum :=
  .table [
    ("Error", .table [("Code", .text "SlowDown"), ("Message", .text "Please reduce your rate.")]),
    ("ResponseMetadata", .table [("RequestId", .text "4442587FB7D0A2F9"),
      ("HTTPStatusCode", .int 503), ("HTTPHeaders", .table [("retry-after", .text hint)])])]

theorem wordyResponse_hasParts (hint : Text) : (wordyResponse hint).HasParts :=
  ⟨trivial, trivial, trivial, trivial, trivial⟩

theorem slowResponse_agreesWith : (slowResponse "0.5").AgreesWith (wordyResponse "0.5") := by
  have status : (slowResponse "0.5").status? = some 503 := rfl
  have hint : (slowResponse "0.5").hint = .text "0.5" := rfl
  have wordyStatus : (wordyResponse "0.5").status? = some 503 := rfl
  have wordyHint : (wordyResponse "0.5").hint = .text "0.5" := rfl
  exact ⟨rfl, status.trans wordyStatus.symm, hint.trans wordyHint.symm⟩

theorem judge_byData_wordyResponse :
    (Fault.service (slowResponse "0.5") "").isStorage = false ∧
    (slowResponse "0.5").AgreesWith (wordyResponse "0.5") ∧ (wordyResponse "0.5").HasParts ∧
    ∃ problem after, judge plainContext (.service (slowResponse "0.5") "") (.start ()) =
        (.ok (.storage problem (.fault (.service (slowResponse "0.5") ""))), after) ∧
      problem.Fits (.service (slowResponse "0.5") "") ∧
      ∃ otherProblem, (judge plainContext (.service (wordyResponse "0.5") "later") (.start ())).1 =
          .ok (.storage otherProblem (.fault (.service (wordyResponse "0.5") "later"))) ∧
        problem.DiffersInWords otherProblem ∧ problem.kind = otherProblem.kind ∧
        problem.worthRetry = otherProblem.worthRetry ∧
        problem.resumeAt? = otherProblem.resumeAt? := by
  have hinted : (Fault.service (slowResponse "0.5") "").serviceDelay = .ok (some ⟨500000⟩) := rfl
  have later : plainContext.now.add? (firstDelay [some ⟨500000⟩, plainContext.delay]) =
      some ⟨500000, by decide⟩ := by decide
  obtain ⟨record, judged⟩ :=
    judge_throttled (slowResponse_isErrorResponse "0.5") rfl hinted later (Scene.start ())
  obtain ⟨problem, same, fits, alike⟩ := judge_byData rfl judged
  obtain ⟨returns, others⟩ :=
    alike _ _ _ "later" plainContext.message (.start ()) rfl slowResponse_agreesWith
  obtain ⟨otherFailure, ended⟩ := returns (wordyResponse_hasParts "0.5")
  obtain ⟨otherProblem, rfl, differs⟩ := others otherFailure ended
  exact ⟨rfl, slowResponse_agreesWith, wordyResponse_hasParts "0.5", problem, _,
    judged.trans (by rw [same]), fits, otherProblem, ended, differs⟩

end ObjectStorage
