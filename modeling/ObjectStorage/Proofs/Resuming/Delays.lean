import ObjectStorage.Proofs.Resuming.Rounding

/-!
# The delay after a throttled request

A failure that asks to slow down says when to try again: after the first delay that is not zero of
the one that the service hints at, the one of the options, and ten seconds (`Datum.delays`). If no
delay goes back in time, the next try is strictly later than the failure (`judge_putsOff`). Nothing
is assumed of the form of the response: where it cannot be read there is no failure of the store.
-/

namespace ObjectStorage

open Number Text Time

variable {σ : Type}

namespace Datum

/-- The seconds that a header asks to wait, if it is given and reads as a number. -/
def headerSeconds? : Datum → Option Binary64
  | .null => none
  | header => readBinary64? (strip header.plain)

/-- The delay that the hint of a response asks for, whatever the form of the response. -/
def askedDelay? (response : Datum) : Option Duration :=
  response.hint.headerSeconds?.bind Binary64.delay?

/-- The delays that there are after a response, the one that counts most first. -/
def delays (response : Datum) (default : Option Duration) : List Duration :=
  response.askedDelay?.toList ++ default.toList ++ [fallbackDelay]

/-- A name that can be looked up finds the field of that name. -/
theorem get_ok {whole value : Datum} {name : Text} (got : whole.get name = .ok value) :
    value = whole.field name := by
  unfold get at got
  unfold field
  split at got
  · next found =>
    cases got
    rw [found]
    rfl
  · cases got

/-- Only a table with entries has fields. -/
theorem field_orElse (whole : Datum) (name : Text) :
    (whole.orElse (.table [])).field name = whole.field name := by
  unfold orElse
  cases given : whole.truthy with
  | true => rfl
  | false =>
    cases whole with
    | table entries =>
      cases entries with
      | nil => rfl
      | cons first rest => cases given
    | _ => rfl

end Datum

namespace Fault

/-- A part of a response that can be read is the field, or empty. -/
theorem responsePart_ok {whole part : Datum} {name : Text}
    (got : responsePart whole name = .ok part) : part = (whole.field name).orElse (.table []) := by
  obtain ⟨value, found, got⟩ := Except.bind_ok got
  cases got
  rw [Datum.get_ok found, Datum.field_orElse]

/-- The delay of a header is that of the seconds in it, if there are any. -/
theorem delayOfHeader_eq (header : Datum) :
    delayOfHeader header = (header.headerSeconds?.map delayOfSeconds).getD (.ok none) := by
  cases header with
  | null => rfl
  | _ =>
    unfold delayOfHeader Datum.headerSeconds?
    dsimp only
    cases readBinary64? (strip _) <;> rfl

/-- Where seconds are a delay or are passed over, they are what they say. -/
theorem delayOfSeconds_said {seconds : Binary64} {own : Option Duration}
    (given : delayOfSeconds seconds = .ok own) : own = seconds.delay? := by
  match seconds with
  | .nan payload => cases given
  | .infinity false => cases given
  | .infinity true =>
    cases given
    rfl
  | .finite true significand exponent =>
    rw [delayOfSeconds_nonpositive rfl] at given
    cases given
    rfl
  | .finite false significand exponent =>
    by_cases zero : significand = 0
    · subst zero
      cases given
      rfl
    · have said : (Binary64.finite false significand exponent).delay? =
          some ⟨Binary64.micros significand exponent⟩ := if_neg zero
      rcases delayOfSeconds_positive exponent zero with kept | ⟨failed, _⟩
      · rw [kept] at given
        cases given
        exact said.symm
      · cases failed.symm.trans given

/-- Where the delay that a service asks for can be read, it is read from its hint. -/
theorem serviceDelay_hinted {response : Datum} {text : Text} {own : Option Duration}
    (given : (service response text).serviceDelay = .ok own) :
    delayOfHeader response.hint = .ok own := by
  obtain ⟨metadata, isMetadata, given⟩ := Except.bind_ok given
  obtain ⟨headers, isHeaders, given⟩ := Except.bind_ok given
  obtain ⟨small, isSmall, given⟩ := Except.bind_ok given
  obtain ⟨capital, isCapital, given⟩ := Except.bind_ok given
  have fields (name : Text) : headers.field name = response.headers.field name := by
    rw [responsePart_ok isHeaders, responsePart_ok isMetadata, Datum.field_orElse,
      Datum.field_orElse]
    rfl
  have hint : small.orElse capital = response.hint := by
    rw [Datum.get_ok isSmall, Datum.get_ok isCapital, fields, fields]
    rfl
  rw [← hint]
  exact given

/-- And it is the one that the hint says. -/
theorem serviceDelay_said {response : Datum} {text : Text} {own : Option Duration}
    (given : (service response text).serviceDelay = .ok own) : own = response.askedDelay? := by
  have hinted := serviceDelay_hinted given
  rw [delayOfHeader_eq] at hinted
  unfold Datum.askedDelay?
  cases said : response.hint.headerSeconds? with
  | none =>
    rw [said] at hinted
    cases hinted
    rfl
  | some seconds =>
    rw [said] at hinted
    exact delayOfSeconds_said hinted

end Fault

/-- No delay goes back in time. -/
def NoneBack (default : Option Duration) : Prop :=
  ∀ delay, default = some delay → 0 ≤ delay.micros

/-- A hint asks for a delay exactly if it reads as a positive number. The delay is that number of
seconds in whole microseconds. -/
theorem Datum.askedDelay?_eq_some_iff {response : Datum} {delay : Duration} :
    response.askedDelay? = some delay ↔ ∃ significand exponent,
      response.hint.headerSeconds? = some (.finite false significand exponent) ∧
        significand ≠ 0 ∧ delay = ⟨Binary64.micros significand exponent⟩ := by
  unfold askedDelay?
  rw [Option.bind_eq_some_iff]
  constructor
  · rintro ⟨seconds, read, said⟩
    unfold Binary64.delay? at said
    split at said
    · next significand exponent =>
      split at said
      · cases said
      · next positive =>
        cases said
        exact ⟨significand, exponent, read, positive, rfl⟩
    · cases said
  · rintro ⟨significand, exponent, read, positive, rfl⟩
    exact ⟨_, read, if_neg positive⟩

/-- A delay is a positive number of seconds in whole microseconds, off by less than one of them. -/
def Number.Binary64.RoundsTo (seconds : Binary64) (delay : Duration) : Prop :=
  ∃ (significand : Nat) (exponent : Int) (micros : Nat),
    seconds = .finite false significand exponent ∧ significand ≠ 0 ∧ delay = ⟨micros⟩ ∧
      let exact := significand * twoTo exponent.toNat * microsPerSecond
      let unit := twoTo (-exponent).toNat
      micros * unit < exact + unit ∧ exact < micros * unit + unit

/-- The delay that a response asks for is what the seconds of its hint round to. -/
theorem Datum.askedDelay?_roundsTo {response : Datum} {delay : Duration}
    (asked : response.askedDelay? = some delay) :
    ∃ seconds, response.hint.headerSeconds? = some seconds ∧ seconds.RoundsTo delay := by
  obtain ⟨significand, exponent, read, positive, rfl⟩ := askedDelay?_eq_some_iff.mp asked
  exact ⟨_, read, significand, exponent, _, rfl, positive, rfl,
    Binary64.micros_near significand exponent⟩

/-- It does not go back in time. -/
theorem Datum.askedDelay?_noneBack (response : Datum) : NoneBack response.askedDelay? := by
  intro delay said
  obtain ⟨significand, exponent, _, _, rfl⟩ := askedDelay?_eq_some_iff.mp said
  exact Int.natCast_nonneg _

/-- The delay that is chosen is the first that is not zero. -/
theorem find?_firstDelay (delays : List (Option Duration)) :
    (delays.flatMap Option.toList ++ [fallbackDelay]).find? (fun delay => !delay.isZero) =
      some (firstDelay delays) := by
  induction delays with
  | nil => rfl
  | cons delay rest ih =>
    cases delay with
    | none => exact ih
    | some delay =>
      rw [List.flatMap_cons, Option.toList_some, List.singleton_append, List.cons_append,
        List.find?_cons, firstDelay]
      cases zero : delay.isZero with
      | true => exact ih
      | false => rfl

/-- When to try again after a failure that asked to slow down. -/
structure PutsOff (response : Datum) (default : Option Duration) (now resumeAt : Instant) : Prop
    where
  /-- The next try is strictly later. -/
  later : now.micros < resumeAt.micros
  /-- It is put off by the first delay that is not zero. -/
  delayed : ∃ delay, (response.delays default).find? (fun delay => !delay.isZero) = some delay ∧
    (resumeAt.micros : Int) = now.micros + delay.micros
  /-- The delay that the service asks for is the number in its hint. -/
  rounded : ∀ delay, response.askedDelay? = some delay →
    ∃ seconds, response.hint.headerSeconds? = some seconds ∧ seconds.RoundsTo delay

/-- An instant is moved by the length of the delay. -/
theorem Time.Instant.add?_micros {now resumeAt : Instant} {delay : Duration}
    (added : now.add? delay = some resumeAt) :
    (resumeAt.micros : Int) = now.micros + delay.micros := by
  unfold add? ofMicros? at added
  split at added
  · next within =>
    cases added
    exact Int.toNat_of_nonneg within.2
  · cases added

/-- The next try after a throttled request is later by the delay that is chosen. -/
theorem putsOff_of_add? {response : Datum} {default : Option Duration} {now resumeAt : Instant}
    (patient : NoneBack default)
    (added : now.add? (firstDelay [response.askedDelay?, default]) = some resumeAt) :
    PutsOff response default now resumeAt := by
  have chosen : (response.delays default).find? (fun delay => !delay.isZero) =
      some (firstDelay [response.askedDelay?, default]) := by
    rw [← find?_firstDelay]
    simp [Datum.delays]
  have micros := Instant.add?_micros added
  refine ⟨?_, ⟨_, chosen, micros⟩, fun delay => Datum.askedDelay?_roundsTo⟩
  have nonzero := List.find?_some chosen
  have inside := List.mem_of_find?_eq_some chosen
  generalize firstDelay [response.askedDelay?, default] = delay at micros nonzero inside
  have forward : 0 ≤ delay.micros := by
    simp only [Datum.delays, List.mem_append, Option.mem_toList, List.mem_singleton] at inside
    rcases inside with (asked | own) | rfl
    · exact response.askedDelay?_noneBack delay asked
    · exact patient delay own
    · decide
  have differs : delay.micros ≠ 0 := by
    simpa [Duration.isZero] using nonzero
  omega

/-- A verdict that asks to slow down says when to try again. -/
theorem Verdict.ofFault_putsOff {context : FailureContext} {response : Datum} {text : Text}
    {verdict : Verdict} {resumeAt : Instant} {message : Text} (patient : NoneBack context.delay)
    (given : Verdict.ofFault context (.service response text) = .ok verdict)
    (slow : verdict.problem = .throttled resumeAt message) :
    PutsOff response context.delay context.now resumeAt := by
  rcases (Verdict.ofFault_ok given).2 with ⟨asked, _⟩ | ⟨_, calm⟩
  · obtain ⟨own, instant, said, later, problem, _⟩ := Verdict.ofFault_slow asked given
    cases problem.symm.trans slow
    rw [Fault.serviceDelay_said said] at later
    exact putsOff_of_add? patient later
  · cases calm.symm.trans slow

/-- Whenever a fault that asks to slow down is judged, the failure says when to try again. -/
theorem judge_putsOff {context : FailureContext} {response : Datum} {text : Text}
    {scene after : Scene σ} {failure : Fault} (patient : NoneBack context.delay)
    (asks : (Fault.service response text).asksToSlowDown = .ok true)
    (judged : judge context (.service response text) scene = (.ok failure, after)) :
    ∃ resumeAt, failure = .storage (.throttled resumeAt (context.message ++ ": throttled"))
        (.fault (.service response text)) ∧
      PutsOff response context.delay context.now resumeAt := by
  obtain ⟨verdict, given, rfl⟩ := judge_ok rfl judged
  obtain ⟨_, resumeAt, _, _, slow, _⟩ := Verdict.ofFault_slow asks given
  exact ⟨resumeAt, by rw [slow], Verdict.ofFault_putsOff patient given slow⟩

end ObjectStorage
