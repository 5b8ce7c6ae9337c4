import ObjectStorage.Proofs.Surfacing

/-!
# Backing off

A service that asks to slow down may hint at a number of seconds to wait. A hint that is no number,
zero or less is passed over, and so is one that is too small to be a delay; the delay of the options
stands in for it, or else ten seconds. But a hint that spells out NaN or infinity, or whose end lies
behind all years, is not passed over: it stops the judging of the fault with a mishap
(`judge_slow_iff`).
-/

namespace ObjectStorage

open Number Text Time

variable {σ : Type}

namespace Datum

/-- What a table has under a name; nothing where there is no such name and no table. -/
def field (whole : Datum) (name : Text) : Datum :=
  (whole.entry? name).getD .null

/-- A table or nothing. -/
def IsPart : Datum → Prop
  | .null | .table _ => True
  | _ => False

/-- A whole number or nothing. -/
def IsStatus : Datum → Prop
  | .null | .int _ => True
  | _ => False

/-- A text or nothing. -/
def IsHeader : Datum → Prop
  | .null | .text _ => True
  | _ => False

def metadata (response : Datum) : Datum :=
  response.field "ResponseMetadata"

def headers (response : Datum) : Datum :=
  response.metadata.field "HTTPHeaders"

/-- A response that reports an error has its parts in tables, a whole number for its status, and
texts for its headers. Any of them may be missing. -/
structure IsErrorResponse (response : Datum) : Prop where
  whole : response.IsPart
  error : (response.field "Error").IsPart
  metadata : response.metadata.IsPart
  status : (response.metadata.field "HTTPStatusCode").IsStatus
  headers : response.headers.IsPart
  texts : ∀ name, (response.headers.field name).IsHeader

/-- A response has its parts in tables and a whole number for its status. Any of them may be
missing. -/
structure HasParts (response : Datum) : Prop where
  whole : response.IsPart
  error : (response.field "Error").IsPart
  metadata : response.metadata.IsPart
  status : (response.metadata.field "HTTPStatusCode").IsStatus
  headers : response.headers.IsPart

/-- An error response has the parts in which a verdict looks. -/
theorem IsErrorResponse.parts {response : Datum} (formed : response.IsErrorResponse) :
    response.HasParts :=
  ⟨formed.whole, formed.error, formed.metadata, formed.status, formed.headers⟩

/-- The hint of a response, under either spelling of its name. -/
def hint (response : Datum) : Datum :=
  (response.headers.field "retry-after").orElse (response.headers.field "Retry-After")

/-- The seconds that a hint asks to wait, if it is a number. -/
def seconds? : Datum → Option Binary64
  | .text said => readBinary64? (strip said)
  | _ => none

variable {whole : Datum}

/-- Looking a name up in a part finds the field of that name; a part that is left out has no fields.
-/
theorem IsPart.get_orElse (part : whole.IsPart) (name : Text) :
    (whole.orElse (.table [])).get name = .ok (whole.field name) := by
  cases whole with
  | null => rfl
  | table entries => cases entries <;> rfl
  | _ => cases part

/-- Looking for a part in an empty table instead of in nothing is the same. -/
theorem IsPart.responsePart_orElse (part : whole.IsPart) (name : Text) :
    Fault.responsePart (whole.orElse (.table [])) name =
      .ok ((whole.field name).orElse (.table [])) := by
  cases whole with
  | null => rfl
  | table entries => cases entries <;> rfl
  | _ => cases part

/-- A named part of a part can always be read, and is empty if it is left out. -/
theorem IsPart.responsePart (part : whole.IsPart) (name : Text) :
    Fault.responsePart whole name = .ok ((whole.field name).orElse (.table [])) := by
  unfold Fault.responsePart
  rw [part.get_orElse]
  rfl

theorem HasParts.metadataPart {response : Datum} (parts : response.HasParts) :
    Fault.responsePart response "ResponseMetadata" = .ok (response.metadata.orElse (.table [])) :=
  parts.whole.responsePart "ResponseMetadata"

theorem HasParts.headersPart {response : Datum} (parts : response.HasParts) :
    Fault.responsePart (response.metadata.orElse (.table [])) "HTTPHeaders" =
      .ok (response.headers.orElse (.table [])) :=
  parts.metadata.responsePart_orElse "HTTPHeaders"

theorem IsHeader.orElse {header other : Datum} (own : header.IsHeader) (default : other.IsHeader) :
    (header.orElse other).IsHeader := by
  unfold Datum.orElse
  split
  · exact own
  · exact default

end Datum

/-- The microseconds of a positive number of seconds. -/
def Number.Binary64.micros (significand : Nat) (exponent : Int) : Nat :=
  wholePart significand exponent * microsPerSecond +
    Duration.fractionMicros significand exponent

/-- The delay of a number of seconds; none if it is not above zero or has no end. -/
def Number.Binary64.delay? : Binary64 → Option Duration
  | .finite false significand exponent =>
    if significand = 0 then none else some ⟨micros significand exponent⟩
  | _ => none

/-- A number of seconds is not ruled out as zero or less, and yet no instant is that far away. -/
def Number.Binary64.BreaksAt (now : Instant) : Binary64 → Prop
  | .nan _ => True
  | .infinity negative => negative = false
  | .finite negative significand exponent => negative = false ∧ significand ≠ 0 ∧
      microsOfAllYears ≤ now.micros + micros significand exponent

namespace Time

/-- A stretch of time can be added to an instant unless it leads past the last year. -/
theorem Instant.add?_isSome_iff (now : Instant) (micros : Nat) :
    (now.add? ⟨micros⟩).isSome = true ↔ now.micros + micros < microsOfAllYears := by
  unfold add? ofMicros?
  dsimp only
  split
  · next within => exact ⟨fun _ => by omega, fun _ => rfl⟩
  · next beyond => exact ⟨nofun, fun early => (beyond (by omega)).elim⟩

/-- A duration is too long only if it is longer than all years. -/
theorem Duration.ofMicros?_nat (micros : Nat) : ofMicros? micros = .ok ⟨micros⟩ ∨
    ofMicros? micros = .error (.tooLong (micros / microsPerDay)) ∧ microsOfAllYears ≤ micros := by
  unfold ofMicros?
  cases kept : inRange micros with
  | true => exact .inl rfl
  | false =>
    rcases Nat.lt_or_ge micros microsOfAllYears with early | late
    · have short : -(maxDays * microsPerDay : Int) ≤ micros ∧
          (micros : Int) < (maxDays + 1) * microsPerDay := by
        unfold maxDays
        unfold microsOfAllYears at early
        omega
      unfold inRange at kept
      simp [short] at kept
    · exact .inr ⟨rfl, late⟩

end Time

namespace Fault

/-- The delay that the service asks for with a number of seconds. -/
def delayOfSeconds (seconds : Binary64) : Except Fault (Option Duration) :=
  if seconds.nonpositive then .ok none
  else ((Duration.ofReal? seconds).map some).mapError Fault.ofDuration

/-- Seconds that are not positive are no delay. -/
theorem delayOfSeconds_nonpositive {seconds : Binary64} (passed : seconds.nonpositive = true) :
    delayOfSeconds seconds = .ok none := by
  unfold delayOfSeconds
  rw [if_pos passed]

/-- Positive seconds are a duration, unless they last longer than all years. -/
theorem delayOfSeconds_positive {significand : Nat} (exponent : Int) (positive : significand ≠ 0) :
    delayOfSeconds (.finite false significand exponent) =
        .ok (some ⟨Binary64.micros significand exponent⟩) ∨
      delayOfSeconds (.finite false significand exponent) =
          .error (.ofDuration (.tooLong (Binary64.micros significand exponent / microsPerDay))) ∧
        microsOfAllYears ≤ Binary64.micros significand exponent := by
  have above : (Binary64.finite false significand exponent).nonpositive = false := by
    simpa [Binary64.nonpositive] using positive
  have read : Duration.ofReal? (.finite false significand exponent) =
      Duration.ofMicros? (Binary64.micros significand exponent : Nat) := rfl
  unfold delayOfSeconds
  rw [above, read]
  rcases Duration.ofMicros?_nat (Binary64.micros significand exponent) with kept | ⟨beyond, long⟩
  · rw [kept]
    exact .inl rfl
  · rw [beyond]
    exact .inr ⟨rfl, long⟩

/-- Seconds that do not break are a delay that ends in time, or are passed over. -/
theorem delayOfSeconds_ok {now : Instant} {seconds : Binary64} (holds : ¬ seconds.BreaksAt now) :
    delayOfSeconds seconds = .ok seconds.delay? ∧
      ∀ delay, seconds.delay? = some delay → (now.add? delay).isSome = true := by
  match seconds with
  | .nan payload => exact (holds trivial).elim
  | .infinity false => exact (holds rfl).elim
  | .infinity true => exact ⟨rfl, nofun⟩
  | .finite true significand exponent => exact ⟨delayOfSeconds_nonpositive rfl, nofun⟩
  | .finite false significand exponent =>
    by_cases zero : significand = 0
    · subst zero
      exact ⟨rfl, nofun⟩
    · have early : now.micros + Binary64.micros significand exponent < microsOfAllYears :=
        Nat.not_le.mp fun late => holds ⟨rfl, zero, late⟩
      have delay : (Binary64.finite false significand exponent).delay? =
          some ⟨Binary64.micros significand exponent⟩ := if_neg zero
      rw [delay]
      rcases delayOfSeconds_positive exponent zero with given | ⟨_, long⟩
      · refine ⟨given, ?_⟩
        rintro _ ⟨⟩
        exact (now.add?_isSome_iff _).mpr early
      · omega

/-- Seconds that break are no duration, or one whose end lies behind all years. -/
theorem delayOfSeconds_breaks {now : Instant} {seconds : Binary64} (breaks : seconds.BreaksAt now) :
    (∃ m, delayOfSeconds seconds = .error (.mishap m)) ∨
    ∃ delay, delayOfSeconds seconds = .ok (some delay) ∧ delay.isZero = false ∧
      now.add? delay = none := by
  match seconds with
  | .nan payload => exact .inl ⟨_, rfl⟩
  | .infinity false => exact .inl ⟨_, rfl⟩
  | .infinity true => cases breaks
  | .finite true significand exponent => cases breaks.1
  | .finite false significand exponent =>
    obtain ⟨_, positive, late⟩ := breaks
    rcases delayOfSeconds_positive exponent positive with given | ⟨failed, _⟩
    · have behind : now.add? ⟨Binary64.micros significand exponent⟩ = none := by
        rw [← Option.not_isSome_iff_eq_none, now.add?_isSome_iff]
        omega
      have given_zero : (⟨Binary64.micros significand exponent⟩ : Duration).isZero = false := by
        have within := now.inYears
        unfold Duration.isZero
        rw [beq_eq_false_iff_ne]
        dsimp only
        omega
      exact .inr ⟨_, given, given_zero, behind⟩
    · exact .inl ⟨_, failed⟩

variable {response : Datum}

/-- The code of a response that has its parts can be read. -/
theorem reportedCode_ok (parts : response.HasParts) (text : Text) :
    ∃ code, (service response text).reportedCode = .ok code := by
  simp only [reportedCode, parts.whole.responsePart, bind, Except.bind, parts.error.get_orElse]
  exact ⟨_, rfl⟩

/-- The status of such a response can be read as well. -/
theorem reportedStatus_ok (parts : response.HasParts) (text : Text) :
    ∃ status, (service response text).reportedStatus = .ok status := by
  have status := parts.status
  simp only [reportedStatus, parts.metadataPart, bind, Except.bind, parts.metadata.get_orElse]
  cases given : response.metadata.field "HTTPStatusCode" with
  | null => exact ⟨_, rfl⟩
  | int value => exact ⟨_, rfl⟩
  | _ =>
    rw [given] at status
    cases status

/-- The delay that a response asks for is read from its hint. -/
theorem serviceDelay_hint (parts : response.HasParts) (text : Text) :
    (service response text).serviceDelay = delayOfHeader response.hint := by
  simp only [serviceDelay, parts.metadataPart, parts.headersPart, bind, Except.bind,
    parts.headers.get_orElse]
  rfl

/-- The delay that a response asks for is that of the seconds in its hint. -/
theorem serviceDelay_eq (formed : response.IsErrorResponse) (text : Text) :
    (service response text).serviceDelay =
      (response.hint.seconds?.map delayOfSeconds).getD (.ok none) := by
  have hint : response.hint.IsHeader :=
    (formed.texts "retry-after").orElse (formed.texts "Retry-After")
  rw [serviceDelay_hint formed.parts]
  cases given : response.hint with
  | null => rfl
  | text said =>
    unfold delayOfHeader Datum.seconds?
    dsimp only [Datum.plain]
    cases readBinary64? (strip said) <;> rfl
  | _ =>
    rw [given] at hint
    cases hint

end Fault

/-- The hint of a response breaks the judging of its fault at an instant. -/
def Datum.HintBreaks (response : Datum) (now : Instant) : Prop :=
  ∃ seconds, response.hint.seconds? = some seconds ∧ seconds.BreaksAt now

/-- The delay that the hint of a response asks for. -/
def Datum.hintedDelay? (response : Datum) : Option Duration :=
  response.hint.seconds?.bind Binary64.delay?

/-- If all delays to choose from end in time, the chosen one does. -/
theorem add?_firstDelay {now : Instant} {delays : List (Option Duration)}
    (each : ∀ delay, some delay ∈ delays → (now.add? delay).isSome = true)
    (fallback : (now.add? fallbackDelay).isSome = true) :
    (now.add? (firstDelay delays)).isSome = true := by
  induction delays with
  | nil => exact fallback
  | cons delay rest ih =>
    have later := ih fun other inside => each other (List.mem_cons_of_mem _ inside)
    cases delay with
    | none => exact later
    | some delay =>
      unfold firstDelay
      split
      · exact later
      · exact each delay List.mem_cons_self

section

variable {response : Datum} {text : Text} {context : FailureContext}

/-- A hint that does not break is read, and the delay that it asks for ends in time. -/
theorem serviceDelay_ok (formed : response.IsErrorResponse)
    (holds : ¬ response.HintBreaks context.now) (text : Text) :
    (Fault.service response text).serviceDelay = .ok response.hintedDelay? ∧
      ∀ delay, response.hintedDelay? = some delay → (context.now.add? delay).isSome = true := by
  rw [Fault.serviceDelay_eq formed]
  unfold Datum.hintedDelay?
  cases read : response.hint.seconds? with
  | none => exact ⟨rfl, nofun⟩
  | some seconds => exact Fault.delayOfSeconds_ok fun breaks => holds ⟨seconds, read, breaks⟩

/-- A request to slow down whose hint can be read is judged as throttled until the first of the
delays is over. -/
theorem judge_throttled (formed : response.IsErrorResponse)
    (asks : (Fault.service response text).asksToSlowDown = .ok true) {hinted : Option Duration}
    (read : (Fault.service response text).serviceDelay = .ok hinted) {resumeAt : Instant}
    (later : context.now.add? (firstDelay [hinted, context.delay]) = some resumeAt)
    (scene : Scene σ) : ∃ record, judge context (.service response text) scene =
      (.ok (.storage (.throttled resumeAt (context.message ++ ": throttled"))
          (.fault (.service response text))),
        { scene with journal := scene.journal ++ [.record record] }) := by
  obtain ⟨code, readCode⟩ := Fault.reportedCode_ok formed.parts text
  obtain ⟨status, readStatus⟩ := Fault.reportedStatus_ok formed.parts text
  have verdict : ∃ record, Verdict.ofFault context (.service response text) =
      .ok ⟨.throttled resumeAt (context.message ++ ": throttled"), record⟩ := by
    unfold Verdict.ofFault Verdict.throttled
    rw [asks, read, readCode, readStatus]
    simp only [bind, Except.bind, ↓reduceIte, later]
    exact ⟨_, rfl⟩
  obtain ⟨record, verdict⟩ := verdict
  refine ⟨record, ?_⟩
  unfold judge
  simp only [Act.bind_apply, Act.ofExcept_apply, verdict, Scene.note_apply, Act.pure_apply]

/-- Where no instant can be found for a request to slow down, the fault of looking for it is what
the judge ends in. -/
theorem judge_refused (asks : (Fault.service response text).asksToSlowDown = .ok true)
    {fault : Fault} (refused : Verdict.throttled context (.service response text) = .error fault)
    (scene : Scene σ) : judge context (.service response text) scene = (.error fault, scene) := by
  have verdict : Verdict.ofFault context (.service response text) = .error fault := by
    unfold Verdict.ofFault
    rw [asks]
    exact refused
  unfold judge
  simp only [Act.bind_apply, Act.ofExcept_apply, verdict]

/-- A hint that breaks leaves no verdict but a mishap. -/
theorem throttled_breaks (formed : response.IsErrorResponse)
    (breaks : response.HintBreaks context.now) (text : Text) :
    ∃ m, Verdict.throttled context (.service response text) = .error (.mishap m) := by
  obtain ⟨seconds, read, breaks⟩ := breaks
  have delay := Fault.serviceDelay_eq formed text
  rw [read] at delay
  unfold Verdict.throttled
  rw [delay]
  rcases Fault.delayOfSeconds_breaks breaks with ⟨m, failed⟩ | ⟨long, given, nonzero, beyond⟩
  · rw [Option.map_some, Option.getD_some, failed]
    exact ⟨m, rfl⟩
  · have chosen : firstDelay [some long, context.delay] = long := by
      unfold firstDelay
      rw [nonzero]
      rfl
    rw [Option.map_some, Option.getD_some, given]
    simp only [bind, Except.bind, chosen, beyond]
    exact ⟨.outOfRange, rfl⟩

/-- A fault of a service that asks to slow down becomes a throttled failure exactly if the hint of
its response does not break. The failure says to wait as long as the hint asks for, or else for the
delay of the options, or else for ten seconds. Where the hint breaks there is only a mishap, and
nothing of it is written. -/
theorem judge_slow_iff (formed : response.IsErrorResponse)
    (asks : (Fault.service response text).asksToSlowDown = .ok true)
    (default : ∀ delay, context.delay = some delay → (context.now.add? delay).isSome = true)
    (fallback : (context.now.add? fallbackDelay).isSome = true) (scene : Scene σ) :
    (¬ response.HintBreaks context.now ↔ ∃ resumeAt record,
      context.now.add? (firstDelay [response.hintedDelay?, context.delay]) = some resumeAt ∧
      judge context (.service response text) scene =
        (.ok (.storage (.throttled resumeAt (context.message ++ ": throttled"))
            (.fault (.service response text))),
          { scene with journal := scene.journal ++ [.record record] })) ∧
    (response.HintBreaks context.now → ∃ m,
      judge context (.service response text) scene = (.error (.mishap m), scene)) := by
  have stopped (breaks : response.HintBreaks context.now) : ∃ m,
      judge context (.service response text) scene = (.error (.mishap m), scene) := by
    obtain ⟨m, refused⟩ := throttled_breaks formed breaks text
    exact ⟨m, judge_refused asks refused scene⟩
  refine ⟨⟨fun holds => ?_, ?_⟩, stopped⟩
  · obtain ⟨read, hinted⟩ := serviceDelay_ok formed holds text
    have later : (context.now.add? (firstDelay [response.hintedDelay?, context.delay])).isSome =
        true := by
      apply add?_firstDelay _ fallback
      intro delay inside
      rcases List.mem_cons.mp inside with own | others
      · exact hinted delay own.symm
      · exact default delay (List.mem_singleton.mp others).symm
    obtain ⟨resumeAt, later⟩ := Option.isSome_iff_exists.mp later
    obtain ⟨record, judged⟩ := judge_throttled formed asks read later scene
    exact ⟨resumeAt, record, later, judged⟩
  · rintro ⟨resumeAt, record, _, judged⟩ breaks
    obtain ⟨m, failed⟩ := stopped breaks
    rw [failed] at judged
    cases judged

end

/-- The response of a service that asks to slow down, with a hint. -/
def slowResponse (hint : Text) : Datum :=
  .table [
    ("Error", .table [("Code", .text "SlowDown")]),
    ("ResponseMetadata", .table [("HTTPStatusCode", .int 503),
      ("HTTPHeaders", .table [("Retry-After", .text hint)])])]

/-- The sample responses are error responses, whatever their hint says. -/
theorem slowResponse_isErrorResponse (hint : Text) : (slowResponse hint).IsErrorResponse where
  whole := trivial
  error := trivial
  metadata := trivial
  status := trivial
  headers := trivial
  texts name := by
    change (Datum.field (.table [("Retry-After", .text hint)]) name).IsHeader
    unfold Datum.field Datum.entry?
    rw [Option.getD_some, List.lookup_cons]
    split <;> trivial

/-- The default message of a failure, without a delay of the options. -/
def plainContext : FailureContext :=
  ⟨.beginning, none, "Object store request failed"⟩

theorem judge_slow_iff_slowResponse :
    (slowResponse "5").IsErrorResponse ∧
    (Fault.service (slowResponse "5") "").asksToSlowDown = .ok true ∧
    (∀ delay, plainContext.delay = some delay → (plainContext.now.add? delay).isSome = true) ∧
    (plainContext.now.add? fallbackDelay).isSome = true ∧
    (¬ (slowResponse "5").HintBreaks plainContext.now ↔ ∃ resumeAt record,
      plainContext.now.add? (firstDelay [(slowResponse "5").hintedDelay?, plainContext.delay]) =
        some resumeAt ∧
      judge plainContext (.service (slowResponse "5") "") (.start ()) =
        (.ok (.storage (.throttled resumeAt (plainContext.message ++ ": throttled"))
            (.fault (.service (slowResponse "5") ""))),
          { Scene.start () with journal := (Scene.start ()).journal ++ [.record record] })) ∧
    ((slowResponse "5").HintBreaks plainContext.now → ∃ m,
      judge plainContext (.service (slowResponse "5") "") (.start ()) =
        (.error (.mishap m), .start ())) :=
  have without : ∀ delay, plainContext.delay = some delay →
      (plainContext.now.add? delay).isSome = true := by
    rintro delay ⟨⟩
  ⟨slowResponse_isErrorResponse "5", rfl, without, by decide,
    judge_slow_iff (slowResponse_isErrorResponse "5") rfl without (by decide) (.start ())⟩

/-- A hint that reads as not a number leaves no failure of the store, though without the hint there
is one. -/
theorem judge_breaks_slowResponse :
    (slowResponse "nan").IsErrorResponse ∧
    (Fault.service (slowResponse "nan") "").asksToSlowDown = .ok true ∧
    (plainContext.now.add? fallbackDelay).isSome = true ∧
    judge plainContext (.service (slowResponse "nan") "") (.start ()) =
      (.error (.mishap .nanToInteger), .start ()) :=
  ⟨slowResponse_isErrorResponse "nan", rfl, by decide, rfl⟩

end ObjectStorage
