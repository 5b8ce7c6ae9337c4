import ObjectStorage.Proofs.Validation

/-!
# Faults from outside

A store makes a verdict on a fault by looking into the response of the service. Where the response
cannot be read, what comes of it is a fault from outside the store again, and no failure of the
store (`FailsOutside.verdict`).
-/

namespace ObjectStorage

open Text Time

variable {α β : Type}

/-- The fault that a result is, if it is one, comes from outside the store. -/
def FailsOutside (result : Except Fault α) : Prop :=
  ∀ fault, result = .error fault → fault.isStorage = false

namespace FailsOutside

theorem ok (answer : α) : FailsOutside (.ok answer) := nofun

/-- A mishap comes from outside the store. -/
theorem mishap (m : Mishap) : FailsOutside (.error (.mishap m) : Except Fault α) := by
  rintro _ ⟨⟩
  rfl

/-- A calculation whose steps fail outside the store does so as a whole. -/
theorem bind {first : Except Fault α} {next : α → Except Fault β} (left : FailsOutside first)
    (right : ∀ answer, FailsOutside (next answer)) : FailsOutside (first >>= next) := by
  intro fault failed
  rcases Except.bind_error failed with own | ⟨answer, _, later⟩
  · exact left fault own
  · exact right answer fault later

/-- Looking a key up in what is no table is a mishap. -/
theorem get (data : Datum) (key : Text) : FailsOutside (data.get key) := by
  unfold Datum.get
  split
  · exact ok _
  · exact mishap _

theorem items (data : Datum) : FailsOutside data.items := by
  cases data with
  | list | table | text | kind | bytes => exact ok _
  | _ => exact mishap _

/-- A part of a response that cannot be looked up is a mishap. -/
theorem responsePart (whole : Datum) (name : Text) :
    FailsOutside (Fault.responsePart whole name) :=
  (get _ _).bind fun _ => ok _

/-- A text that is no numeral is a mishap. -/
theorem integerOfText (text described : Text) :
    FailsOutside (Datum.integerOfText text described) := by
  unfold Datum.integerOfText
  split
  · exact mishap _
  · split
    · exact ok _
    · exact mishap _

theorem toInteger (data : Datum) : FailsOutside data.toInteger := by
  cases data with
  | bool | int => exact ok _
  | real value =>
    cases value with
    | nan | infinity => exact mishap _
    | finite => exact ok _
  | text | kind | bytes => exact integerOfText _ _
  | _ => exact mishap _

theorem reportedCode (fault : Fault) : FailsOutside fault.reportedCode := by
  unfold Fault.reportedCode
  split
  · exact (responsePart _ _).bind fun _ => (get _ _).bind fun _ => ok _
  · exact ok _

theorem reportedStatus (fault : Fault) : FailsOutside fault.reportedStatus := by
  unfold Fault.reportedStatus
  split
  · refine (responsePart _ _).bind fun _ => (get _ _).bind fun status => ?_
    split
    · exact ok _
    · exact (toInteger _).bind fun _ => ok _
  · exact ok _

/-- Where it cannot be told whether a service asks to slow down, that is a mishap. -/
theorem asksToSlowDown (fault : Fault) : FailsOutside fault.asksToSlowDown := by
  refine (reportedCode fault).bind fun code => ?_
  split
  · exact ok _
  · exact (reportedStatus fault).bind fun _ => ok _

/-- Where the hint of a header breaks down, that is one too. -/
theorem delayOfHeader (header : Datum) : FailsOutside (Fault.delayOfHeader header) := by
  unfold Fault.delayOfHeader
  split
  · exact ok _
  · split
    · exact ok _
    · next seconds _ =>
      split
      · exact ok _
      · cases Duration.ofReal? seconds with
        | ok delay => exact ok _
        | error problem => cases problem <;> exact mishap _

/-- The delay that a service asks for is read from such a header, or that breaks down outside the
store. -/
theorem serviceDelay (fault : Fault) : FailsOutside fault.serviceDelay := by
  unfold Fault.serviceDelay
  split
  · exact (responsePart _ _).bind fun _ => (responsePart _ _).bind fun _ =>
      (get _ _).bind fun _ => (get _ _).bind fun _ => delayOfHeader _
  · exact ok _

/-- If no verdict can be given, it is not for a failure of the store. -/
theorem verdict (context : FailureContext) (fault : Fault) :
    FailsOutside (Verdict.ofFault context fault) := by
  refine (asksToSlowDown fault).bind fun slow => ?_
  split
  · refine (serviceDelay fault).bind fun delay => ?_
    dsimp only
    split
    · exact (ok _).bind fun _ => (reportedCode fault).bind fun _ =>
        (reportedStatus fault).bind fun _ => ok _
    · exact (mishap _).bind fun _ => (reportedCode fault).bind fun _ =>
        (reportedStatus fault).bind fun _ => ok _
  · exact (reportedCode fault).bind fun _ => (reportedStatus fault).bind fun _ => ok _

end FailsOutside

end ObjectStorage
