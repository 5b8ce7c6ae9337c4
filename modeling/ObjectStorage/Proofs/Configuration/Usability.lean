import ObjectStorage.Environment
import ObjectStorage.Proofs.Configuration.Seconds

/-!
# Accepted settings in use

Settings are checked when they are made, and options of the store are made of them later. With
settings that were made and know their options there are such options exactly if the delay for
retries is nothing, or a positive number of seconds that takes less than a billion days; the options
have that delay then (`Settings.accepted_usable`). NaN, infinity and numbers that are too large are
accepted, and there are no options with them.
-/

namespace ObjectStorage

open Number Text Time

namespace SettingsDraft

/-- The other checks do not refuse for the sign of a number. -/
theorem checkBuckets_ne_notPositive (buckets : Datum) :
    checkBuckets buckets ≠ .error (.mishap (.setting .retryNotPositive)) := by
  intro refused
  cases buckets with
  | table entries =>
    obtain ⟨⟨name, options⟩, _, failed⟩ := Except.mapM_error refused
    cases options <;> cases failed
  | _ => cases refused

/-- The check of the log level never blames the seconds. -/
theorem checkLevel_ne_notPositive (level : Datum) :
    checkLevel level ≠ .error (.mishap (.setting .retryNotPositive)) := by
  intro refused
  unfold checkLevel at refused
  split at refused
  · dsimp only at refused
    split at refused <;> cases refused
  all_goals cases refused

end SettingsDraft

namespace ClientOptions

/-- A table whose names are all known gives options. -/
theorem ofDatum_known {entries : List (Text × Datum)}
    (known : ∀ option ∈ entries, option.1 ∈ names) :
    ofDatum (.table entries) = .ok (ofEntries entries) := by
  have listed : (Datum.table entries).items = .ok ((entries.map Prod.fst).map Datum.text) := by
    rw [List.map_map]
    rfl
  have read : ((entries.map Prod.fst).map Datum.text).mapM nameOf = .ok (entries.map Prod.fst) :=
    Except.mapM_map_of_forall fun _ _ => rfl
  have unknown : unknownNames (entries.map Prod.fst) = [] := by
    have none : (entries.map Prod.fst).filter (fun name => !names.contains name) = [] := by
      simpa [List.filter_eq_nil_iff] using fun name value inside => known (name, value) inside
    unfold unknownNames
    rw [none]
    rfl
  unfold ofDatum
  simp only [listed, read, unknown, bind, Except.bind]
  rfl

end ClientOptions

namespace Settings

variable {draft : SettingsDraft} {settings : Settings}

/-- Settings refuse a delay for its sign exactly if it is a number that is zero or less. -/
theorem make_notPositive_iff :
    make draft = .error (.mishap (.setting .retryNotPositive)) ↔
      draft.retryAfter.IsNonpositive := by
  rw [← SettingsDraft.checkRetry_notPositive_iff]
  constructor
  · intro refused
    rcases Except.bind_error refused with own | ⟨_, _, refused⟩
    · exact own
    rcases Except.bind_error refused with buckets | ⟨_, _, refused⟩
    · exact (SettingsDraft.checkBuckets_ne_notPositive _ buckets).elim
    rcases Except.bind_error refused with level | ⟨_, _, refused⟩
    · exact (SettingsDraft.checkLevel_ne_notPositive _ level).elim
    · cases refused
  · intro refused
    unfold make
    rw [refused]
    rfl

/-- Settings that were made. -/
def IsAccepted (settings : Settings) : Prop :=
  ∃ draft, make draft = .ok settings

/-- The options of the buckets have known names only. -/
def KnowsOptions (settings : Settings) : Prop :=
  ∀ bucket ∈ settings.bucketOptions, ∀ option ∈ bucket.2, option.1 ∈ ClientOptions.names

/-- The delay for retries of settings that were made was checked and is the one given. -/
theorem make_retryAfter (made : make draft = .ok settings) :
    SettingsDraft.checkRetry draft.retryAfter = .ok () ∧
      settings.retryAfter = draft.retryAfter := by
  obtain ⟨_, checked, made⟩ := Except.bind_ok made
  obtain ⟨_, _, made⟩ := Except.bind_ok made
  obtain ⟨_, _, made⟩ := Except.bind_ok made
  cases made
  exact ⟨checked, rfl⟩

/-- Accepted settings have passed the check of the seconds. -/
theorem IsAccepted.checked (accepted : settings.IsAccepted) :
    SettingsDraft.checkRetry settings.retryAfter = .ok () := by
  obtain ⟨draft, made⟩ := accepted
  obtain ⟨checked, same⟩ := make_retryAfter made
  rw [same]
  exact checked

/-- The options that settings have for all buckets. -/
def defaults (settings : Settings) : ClientOptions :=
  ⟨settings.endpointUrl, settings.region, settings.accessKeyId, settings.secretAccessKey,
    settings.sessionToken, settings.pathStyle⟩

/-- If all names are known, only the delay for retries can keep settings from having options. -/
theorem KnowsOptions.storeOptions (known : settings.KnowsOptions) :
    ∃ options : Option Duration → StoreOptions, (∀ delay, (options delay).retryAfter = delay) ∧
      settings.storeOptions = settings.retryDelay.map options := by
  cases given : settings.bucketOptions.mapM (fun entry => do
      return (entry.1, ← ClientOptions.ofDatum (.table entry.2))) with
  | error fault =>
    obtain ⟨bucket, inside, failed⟩ := Except.mapM_error given
    rw [ClientOptions.ofDatum_known (known bucket inside)] at failed
    cases failed
  | ok buckets =>
    refine ⟨fun delay => ⟨settings.defaults, buckets, delay⟩, fun _ => rfl, ?_⟩
    unfold Settings.storeOptions
    rw [given]
    cases settings.retryDelay <;> rfl

/-- The microseconds of a billion days. No duration is so long. -/
def tooLong : Int :=
  1000000000 * microsPerDay

/-- The delay for retries of a positive number of seconds, unless it is too long. -/
theorem retryDelay_timed {delay : Duration} (said : settings.retryAfter.delay? = some delay) :
    settings.retryDelay = if delay.micros < tooLong then .ok (some delay)
      else .error (.ofDuration (.tooLong (delay.micros / microsPerDay))) := by
  obtain ⟨counts, read⟩ := Datum.duration?_of_delay? said
  have forward := (Datum.delay?_roundsTo said).forward
  unfold retryDelay
  rw [if_pos counts, read, Duration.ofMicros?_forward forward]
  change (((if delay.micros < tooLong then _ else _ : Except DurationProblem Duration).map
    some).mapError Fault.ofDuration) = _
  split <;> rfl

/-- The delay for retries is nothing, or positive and not too long. -/
def HasDelay (settings : Settings) : Prop :=
  settings.retryAfter = .null ∨
    ∃ delay, settings.retryAfter.delay? = some delay ∧ delay.micros < tooLong

/-- A delay is the one for retries, rounded to microseconds. -/
def Delays (settings : Settings) (delay : Option Duration) : Prop :=
  (settings.retryAfter = .null ∧ delay = none) ∨
    ∃ own, delay = some own ∧ settings.retryAfter.RoundsTo own

/-- A fault tells that there is no duration for the delay for retries. -/
inductive Breaks (settings : Settings) : Fault → Prop
  | nan (payload : Nat) (isNan : settings.retryAfter = .real (.nan payload)) :
    Breaks settings (.mishap .nanToInteger)
  | infinity (endless : settings.retryAfter = .real (.infinity false)) :
    Breaks settings (.mishap .infinityToInteger)
  | tooLong {delay : Duration} (said : settings.retryAfter.delay? = some delay)
      (long : Settings.tooLong ≤ delay.micros) :
    Breaks settings (.ofDuration (.tooLong (delay.micros / microsPerDay)))

/-- The delay for retries of settings that were made. -/
theorem IsAccepted.retryDelay_cases (accepted : settings.IsAccepted) :
    (settings.HasDelay ∧ ∃ delay, settings.retryDelay = .ok delay ∧ settings.Delays delay) ∨
    (¬ settings.HasDelay ∧
      ∃ fault, settings.retryDelay = .error fault ∧ settings.Breaks fault) := by
  rcases SettingsDraft.checkRetry_ok_iff.mp accepted.checked with nothing | endless | ⟨delay, said⟩
  · refine .inl ⟨.inl nothing, none, ?_, .inl ⟨nothing, rfl⟩⟩
    rw [retryDelay, nothing]
    rfl
  · generalize own : settings.retryAfter = value at endless
    have lacks : ¬ settings.HasDelay := by
      unfold HasDelay
      rw [own]
      cases endless <;> simp [Datum.delay?, Binary64.delay?]
    refine .inr ⟨lacks, ?_⟩
    unfold retryDelay
    cases endless with
    | nan payload => exact ⟨_, by rw [own]; rfl, .nan payload own⟩
    | infinity => exact ⟨_, by rw [own]; rfl, .infinity own⟩
  · rw [retryDelay_timed said]
    by_cases short : delay.micros < tooLong
    · rw [if_pos short]
      exact .inl ⟨.inr ⟨delay, said, short⟩, _, rfl, .inr ⟨delay, rfl, Datum.delay?_roundsTo said⟩⟩
    · have lacks : ¬ settings.HasDelay := by
        rintro (nothing | ⟨other, same, brief⟩)
        · rw [nothing] at said
          cases said
        · cases said.symm.trans same
          exact short brief
      rw [if_neg short]
      exact .inr ⟨lacks, _, rfl, .tooLong said (Int.not_lt.mp short)⟩

/-- How far settings can be used. -/
structure Usable (settings : Settings) : Prop where
  /-- There are options if the delay for retries is nothing, or positive and not too long, -/
  usable_iff : (∃ options, settings.storeOptions = .ok options) ↔ settings.HasDelay
  /-- and they have just this delay. -/
  delayed : ∀ options, settings.storeOptions = .ok options → settings.Delays options.retryAfter
  /-- If there are none, the delay is why. -/
  broken : ∀ fault, settings.storeOptions = .error fault → settings.Breaks fault

/-- Accepted settings whose options are known give options with the delay they ask for, unless they
have no delay that can be told. -/
theorem IsAccepted.usable (accepted : settings.IsAccepted) (known : settings.KnowsOptions) :
    settings.Usable := by
  obtain ⟨options, kept, given⟩ := known.storeOptions
  rcases accepted.retryDelay_cases with ⟨has, delay, timed, delays⟩ | ⟨lacks, fault, failed, breaks⟩
  · have made : settings.storeOptions = .ok (options delay) := by rw [given, timed]; rfl
    refine ⟨⟨fun _ => has, fun _ => ⟨_, made⟩⟩, ?_, ?_⟩
    · intro other same
      obtain rfl := Except.ok.inj (made.symm.trans same)
      rw [kept]
      exact delays
    · intro fault failed
      cases made.symm.trans failed
  · have ended : settings.storeOptions = .error fault := by rw [given, failed]; rfl
    refine ⟨⟨?_, fun has => (lacks has).elim⟩, ?_, ?_⟩
    · rintro ⟨other, made⟩
      cases made.symm.trans ended
    · intro other made
      cases made.symm.trans ended
    · intro other same
      obtain rfl := Except.error.inj (ended.symm.trans same)
      exact breaks

end Settings

/-- The seconds of a draft are read from the variable for them. -/
theorem Environment.draft_retryAfter {environment : Environment} {draft : SettingsDraft}
    (drafted : environment.draft = .ok draft) :
    Settings.readSeconds (environment.value "S3_RETRY_AFTER_SECONDS") = .ok draft.retryAfter := by
  obtain ⟨_, _, drafted⟩ := Except.bind_ok drafted
  obtain ⟨seconds, read, drafted⟩ := Except.bind_ok drafted
  obtain ⟨_, _, drafted⟩ := Except.bind_ok drafted
  obtain ⟨_, _, drafted⟩ := Except.bind_ok drafted
  obtain ⟨_, _, drafted⟩ := Except.bind_ok drafted
  cases drafted
  exact read

/-- The settings that an environment gives were made, and their delay for retries is what the
variable for it reads as. -/
theorem Environment.settings_accepted {file : Option (List UInt8)} {environment after : Environment}
    {settings : Settings} (given : Environment.settings file environment = (.ok settings, after)) :
    settings.IsAccepted ∧
      Settings.readSeconds (after.value "S3_RETRY_AFTER_SECONDS") = .ok settings.retryAfter := by
  unfold Environment.settings at given
  rcases loaded : load file environment with ⟨_ | _, filled⟩
  · rw [Act.bind_error loaded] at given
    cases given
  · rw [Act.bind_ok loaded] at given
    have made : (do Settings.make (← filled.draft)) = .ok settings := congrArg Prod.fst given
    obtain rfl : filled = after := congrArg Prod.snd given
    obtain ⟨draft, drafted, made⟩ := Except.bind_ok made
    refine ⟨⟨draft, made⟩, ?_⟩
    rw [(Settings.make_retryAfter made).2]
    exact draft_retryAfter drafted

namespace Settings

/-- A number of seconds is refused when settings are made exactly if it is zero or less. With
settings that were made, be it of an environment or not, and whose options have known names there
are options of the store exactly if the delay for retries is nothing, or positive and less than a
billion days. Then the delay of the options is that of the settings, rounded to microseconds.
Otherwise it is NaN, infinity, or a billion days or more, which is not refused. -/
theorem accepted_usable (draft : SettingsDraft) (file : Option (List UInt8))
    (environment : Environment) :
    (make draft = .error (.mishap (.setting .retryNotPositive)) ↔
      draft.retryAfter.IsNonpositive) ∧
    (∀ settings after, Environment.settings file environment = (.ok settings, after) →
      settings.IsAccepted ∧
        readSeconds (after.value "S3_RETRY_AFTER_SECONDS") = .ok settings.retryAfter) ∧
    ∀ settings : Settings, settings.IsAccepted → settings.KnowsOptions → settings.Usable :=
  ⟨make_notPositive_iff, fun _ _ => Environment.settings_accepted,
    fun _ accepted known => accepted.usable known⟩

end Settings

/-- An environment that asks to wait for a second and a half. -/
def briefEnvironment : Environment :=
  [("S3_RETRY_AFTER_SECONDS", " 1.5 ")]

/-- Settings to wait for a second and a half, with a region for one bucket. -/
def briefSettings : Settings where
  endpointUrl := .null
  region := .null
  accessKeyId := .null
  secretAccessKey := .null
  sessionToken := .null
  pathStyle := .bool false
  retryAfter := .real (.nearest false 3 2)
  bucketOptions := [("b", [("region", .text "r")])]
  readyLocations := .list []
  enableMetrics := .bool true
  logLevel := "INFO"

theorem briefSettings_usable :
    Settings.make SettingsDraft.standard ≠ .error (.mishap (.setting .retryNotPositive)) ∧
    (∃ settings, Environment.settings none briefEnvironment = (.ok settings, briefEnvironment) ∧
      settings.IsAccepted ∧ settings.retryAfter = briefSettings.retryAfter) ∧
    briefSettings.IsAccepted ∧ briefSettings.KnowsOptions ∧ briefSettings.Usable ∧
    ∃ options, briefSettings.storeOptions = .ok options ∧
      options.retryAfter = some ⟨1500000⟩ := by
  obtain ⟨refused_iff, reads, uses⟩ :=
    Settings.accepted_usable SettingsDraft.standard none briefEnvironment
  have accepted : briefSettings.IsAccepted :=
    ⟨{ SettingsDraft.standard with
      retryAfter := briefSettings.retryAfter
      bucketOptions := .table [("b", .table [("region", .text "r")])] }, rfl⟩
  have known : briefSettings.KnowsOptions := by
    simp [Settings.KnowsOptions, briefSettings, ClientOptions.names]
  have given : ∃ settings,
      Environment.settings none briefEnvironment = (.ok settings, briefEnvironment) ∧
      settings.retryAfter = briefSettings.retryAfter := ⟨_, rfl, rfl⟩
  obtain ⟨settings, given, same⟩ := given
  exact ⟨refused_iff.not.mpr nofun, ⟨settings, given, (reads _ _ given).1, same⟩, accepted, known,
    uses _ accepted known, _, rfl, rfl⟩

/-- An environment that asks to wait, but for no number of seconds. -/
def nanEnvironment : Environment :=
  [("S3_RETRY_AFTER_SECONDS", "nan")]

/-- Settings accept NaN, and then there are no options with them. -/
theorem nanEnvironment_unusable : ∃ settings,
    Environment.settings none nanEnvironment = (.ok settings, nanEnvironment) ∧
      settings.IsAccepted ∧ settings.KnowsOptions ∧
      settings.storeOptions = .error (.mishap .nanToInteger) := by
  have given : ∃ settings,
      Environment.settings none nanEnvironment = (.ok settings, nanEnvironment) ∧
      settings.KnowsOptions ∧ settings.storeOptions = .error (.mishap .nanToInteger) :=
    ⟨_, rfl, nofun, rfl⟩
  obtain ⟨settings, given, known, breaks⟩ := given
  exact ⟨settings, given, (Environment.settings_accepted given).1, known, breaks⟩

end ObjectStorage
